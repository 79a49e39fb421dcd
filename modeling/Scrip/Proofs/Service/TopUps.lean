import Scrip.Proofs.Service.Credits
import Scrip.Proofs.Service.Journal
import Scrip.Service.TopUps
set_option autoImplicit false

/-! # What top-ups commit

A request that succeeds has committed one pending row. A settlement that succeeds has committed
the new state of a row that was pending until then, and for an approval its credits with it.
Every other request or settlement has committed nothing. The invariant of a settlement is
`Settling`: the new state is among the pending writes, and since the row is closed to others it
stays a pending top-up until the commit.
-/

namespace Scrip.TopUps

open Script

variable {may : Statement → Failure → Prop} {now : Moment} {id : Int} {approved : Bool}

/-! ## Requests -/

theorem requireMinimum_eq_ok {cents minimum : Int} :
    (Money.requireMinimum cents minimum).mapError Failure.refused = .ok () ↔
      minimum * 100 ≤ cents := by
  rw [Failure.mapError_eq_ok]
  unfold Money.requireMinimum Money.centsPerUnit
  split
  · simp only [reduceCtorEq, false_iff]
    omega
  · simp only [true_iff]
    omega

/-- Which top-ups are accepted, and for how many credits. -/
theorem quote_eq_ok_iff {settings : Settings} {amount : Amount} {cents credits : Int} :
    quote settings amount = .ok (cents, credits) ↔ Money.cents amount = .ok cents ∧
      settings.minimumTopupAmount * 100 ≤ cents ∧
      credits = Money.credits cents settings.creditsPerUnit ∧ 0 < credits := by
  rw [quote, Failure.bind_eq_ok]
  constructor
  · rintro ⟨n, hcents, h⟩
    obtain ⟨_, hmin, h⟩ := Failure.bind_eq_ok.mp h
    dsimp only at h
    split at h
    · cases h
    · obtain ⟨rfl, rfl⟩ := Prod.mk.inj (Except.ok.inj h)
      exact ⟨hcents, requireMinimum_eq_ok.mp hmin, rfl, by omega⟩
  · rintro ⟨hcents, hmin, rfl, hpos⟩
    refine ⟨cents, hcents, Failure.bind_eq_ok.mpr ⟨(), requireMinimum_eq_ok.mpr hmin, ?_⟩⟩
    exact if_neg (by omega)

/-- A top-up that is accepted buys something. -/
theorem quote_eq_ok {settings : Settings} {amount : Amount} {cents credits : Int}
    (h : quote settings amount = .ok (cents, credits)) : 0 < credits :=
  (quote_eq_ok_iff.mp h).2.2.2

/-- What a request has committed at its end. -/
def Requested (settings : Settings) (now : Moment) (account : Int) (amount : Amount)
    (method : String) (reference : Option String) (r : Except Failure Transaction)
    (c : Course) : Prop :=
  match r with
  | .ok row => c.pending = [] ∧ ∃ s cents credits, quote settings amount = .ok (cents, credits) ∧
      row = (Journal.topUpDraft account credits cents method reference now).row row.id ∧
      c.deeds = [(s, [.append row])]
  | .error _ => c.deeds = []

/-- A request commits one pending row or nothing. -/
theorem safe_request {settings : Settings} {account : Int} {amount : Amount} {method : String}
    {reference : Option String} (s : Store) :
    Safe may (request settings now account amount method reference)
      (Requested settings now account amount method reference) (.fresh s) := by
  refine safe_bind ?_
  show Then _ may _ (quote settings amount) _
  cases hquote : quote settings amount with
  | error e => exact rfl
  | ok q =>
      obtain ⟨cents, credits⟩ := q
      refine safe_bind (safe_append ?_ ?_)
      · intro s' e after _
        exact rfl
      · intro s' t hs' _
        refine safe_bind (safe_commit ?_ ?_)
        · intro s'' e _
          exact rfl
        · intro s'' _
          exact ⟨Deed.request (quote_eq_ok hquote), rfl, s'', cents, credits, hquote, rfl, rfl⟩

/-! ## Settlements -/

/-- The new state of a top-up is pending, with some further writes, and until then it is a
pending top-up. -/
structure Settling (now : Moment) (id : Int) (new : Status) (row : Transaction)
    (rest : List Write) (c : Course) : Prop where
  pending : c.pending = .status id new.text (some now) :: rest
  deeds : c.deeds = []
  found : c.store.transaction? id = some row
  isPending : row.IsPending

/-- The row stays as it is, for it is closed to others. -/
theorem Settling.on {new : Status} {row : Transaction} {rest : List Write} {c : Course}
    (h : Settling now id new row rest c) {s : Store} (hs : Others c.pending c.store s) :
    Settling now id new row rest (c.on s) where
  pending := h.pending
  deeds := h.deeds
  found := by
    refine hs.transaction id row ?_ h.found
    rw [h.pending, mem_closedRows]
    exact ⟨_, List.mem_cons_self, rfl⟩
  isPending := h.isPending

/-- The writes of a settlement. -/
def settlement (now : Moment) (id : Int) (approved : Bool) (row : Transaction) : List Write :=
  if approved then approvalWrites now id row else [.status id Status.failed.text (some now)]

/-- What a settlement has committed at its end. -/
def Settled (now : Moment) (id : Int) (approved : Bool) (r : Except Failure Transaction)
    (c : Course) : Prop :=
  match r with
  | .ok row => c.pending = [] ∧ ∃ s old, s.transaction? id = some old ∧ old.IsPending ∧
      row = { old with status := (verdict approved).text, updatedAt := some now } ∧
      c.deeds = [(s, settlement now id approved old)]
  | .error _ => c.deeds = []

/-- The end of an approval: the credits and the commit. -/
theorem safe_approve {c : Course} {row : Transaction}
    (h : Settling now id .completed row [] c) :
    Safe may (do
        Credits.add row.account (.whole row.amount)
        exec .commit
        return { row with status := Status.completed.text, updatedAt := some now })
      (Settled now id true) c := by
  refine safe_bind (Credits.safe_add ?_ ?_)
  · intro s e after _
    exact h.deeds
  intro s held hs hpos hfunds
  have h₁ : Settling now id .completed row [.balance row.account row.amount]
      ⟨s, c.pending ++ [.balance row.account row.amount], c.deeds⟩ :=
    { h.on hs with pending := by rw [h.pending]; rfl }
  have hheld : s.balance? row.account = some held := by
    rw [h.pending] at hfunds
    simpa using hfunds
  refine safe_bind (safe_commit ?_ ?_)
  · intro s' e _
    exact h.deeds
  intro s' hs'
  have h₂ := h₁.on hs'
  have hfunds' : s'.balance? row.account = some held := by
    refine (hs'.account row.account ?_).trans hheld
    rw [h₁.pending, mem_closedRows]
    exact ⟨_, List.mem_cons_of_mem _ List.mem_cons_self, rfl⟩
  have hw : c.pending ++ [.balance row.account row.amount] = settlement now id true row :=
    h₁.pending
  constructor
  · show Deed s' (c.pending ++ [.balance row.account row.amount])
    rw [hw]
    exact Deed.approval h₂.found h.isPending hpos hfunds'
  · refine ⟨rfl, s', row, h₂.found, h.isPending, rfl, ?_⟩
    show c.deeds ++ [(s', c.pending ++ [.balance row.account row.amount])] = _
    rw [h.deeds, hw, List.nil_append]

/-- The state that is read again under the lock is the one that the settlement changes. -/
theorem safe_settle (s : Store) :
    Safe may (settle now id approved) (Settled now id approved) (.fresh s) := by
  refine safe_bind (Journal.safe_get ?_ ?_)
  · intro s₁ e _
    exact rfl
  intro s₁ located hs₁ hlocated
  refine safe_bind (Journal.safe_updateStatus rfl ?_ ?_)
  · intro s₂ e after _
    exact rfl
  intro s₂ row hs₂ hrow hpending hnew
  have h : Settling now id (verdict approved) row []
      ⟨s₂, [.status id (verdict approved).text (some now)], []⟩ := ⟨rfl, rfl, hrow, hpending⟩
  cases approved with
  | true =>
      -- the account was read before the lock, and it is still that of the row
      obtain ⟨t, ht, hgoes⟩ := hs₂.grows.transaction? hlocated
      obtain rfl : t = row := Option.some.inj (ht.symm.trans hrow)
      show Safe may (do
        Credits.add located.account (.whole t.amount)
        exec .commit
        return { t with status := Status.completed.text, updatedAt := some now }) _ _
      rw [← hgoes.account_eq]
      exact safe_approve h
  | false =>
      refine safe_bind (safe_commit ?_ ?_)
      · intro s₃ e _
        exact rfl
      · intro s₃ hs₃
        have h₃ := h.on hs₃
        exact ⟨Deed.rejection h₃.found hpending, rfl, s₃, row, h₃.found, hpending, rfl, rfl⟩

end Scrip.TopUps
