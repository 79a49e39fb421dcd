import Scrip.Proofs.Ledger.Run
import Scrip.Proofs.Store.Account
set_option autoImplicit false

/-! # What is done for an account

Every deed of an operation that is carried out for an account changes rows of that account only.
A sale, a note and a request name the account themselves; a settlement names a row of the log, and
is for the account of that row.
-/

namespace Scrip

open Script

variable {A : Int} {s s₀ : Store} {ds : List (Store × List Write)} {now : Moment}

/-! ## Deeds -/

/-- A commit of nothing at the end does not count. -/
theorem Deeds.of_snoc_nil {s s₀ s' : Store} (h : Deeds s (ds ++ [(s₀, [])]) s') :
    Deeds s ds s' := by
  induction ds generalizing s with
  | nil =>
      obtain ⟨-, rfl, -⟩ := h.eq_of_singleton
      exact .none _
  | cons d ds ih =>
      cases h with
      | first deed fits rest => exact .first deed fits (ih rest)

/-- What has been committed since a store has changed rows of one account only. -/
def Confined (A : Int) (s : Store) (ds : List (Store × List Write)) : Prop :=
  ∀ s', Deeds s ds s' → s.SameBut A s'

namespace Confined

theorem nil (A : Int) (s : Store) : Confined A s [] := by
  intro s' h
  rw [h.eq_of_nil]
  exact Store.SameBut.refl A s

theorem singleton {w : List Write} (h : s₀ = s → s.SameBut A (s.applyAll w)) :
    Confined A s [(s₀, w)] := by
  intro s' hds
  obtain ⟨rfl, rfl, -⟩ := hds.eq_of_singleton
  exact h rfl

theorem snoc_nil (h : Confined A s ds) : Confined A s (ds ++ [(s₀, [])]) :=
  fun s' hds => h s' hds.of_snoc_nil

end Confined

namespace Store

variable {item : Item} {text : String} {t own : Int}

theorem sameBut_note (A : Int) (s : Store) :
    s.SameBut A (s.applyAll (noteWrites now A item text t)) := by
  refine sameBut_append ?_ s
  rfl

theorem sameBut_sale (A : Int) (s : Store) :
    s.SameBut A (s.applyAll (saleWrites now A item t own)) := by
  refine ((sameBut_balance A s (-item.price)).trans (sameBut_append ?_ _)).trans (sameBut_own ?_ _)
  · rfl
  · rfl

theorem sameBut_settlement (hl : s.Lawful) {id : Int} {approved : Bool} {row : Transaction}
    (found : s.transaction? id = some row) :
    s.SameBut row.account (s.applyAll (TopUps.settlement now id approved row)) := by
  cases approved with
  | true => exact (sameBut_status hl found _ _).trans (sameBut_balance row.account _ _)
  | false => exact sameBut_status hl found _ _

end Store

/-- A purchase is confined to the buyer. -/
theorem Checkout.Bought.confined {id : Int} {r : Except Failure Purchase.Outcome}
    (h : Bought now A id r ds) : Confined A s ds := by
  have unchanged : ds = [] → Confined A s ds := by
    rintro rfl
    exact Confined.nil A s
  match r, h with
  | .error e, h => exact unchanged h
  | .ok (.declined d), Or.inl h => exact unchanged h
  | .ok (.declined d), Or.inr ⟨_, Or.inl h⟩ => exact unchanged h
  | .ok (.declined d), Or.inr ⟨_, Or.inr ⟨_, item, text, t, _, _, h⟩⟩ =>
      rw [h]
      exact Confined.singleton fun _ => Store.sameBut_note A s
  | .ok (.committed i t left), ⟨_, item, _, _, _, own, held, h, _⟩ =>
      rw [h]
      exact Confined.singleton fun _ => Store.sameBut_sale A s

namespace TopUps

theorem Requested.confined {settings : Settings} {amount : Amount} {method : String}
    {reference : Option String} {r : Except Failure Transaction} {c : Course}
    (h : Requested settings now A amount method reference r c) : Confined A s c.deeds := by
  cases r with
  | error e =>
      rw [show c.deeds = [] from h]
      exact Confined.nil A s
  | ok row =>
      obtain ⟨-, s₁, cents, credits, -, hrow, hdeeds⟩ := h
      rw [hdeeds]
      refine Confined.singleton fun _ => Store.sameBut_append ?_ s
      rw [hrow]
      rfl

/-- A settlement is confined to the account of its top-up. -/
theorem Settled.confined {id : Int} {approved : Bool} {r : Except Failure Transaction}
    {c : Course} (hl : s.Lawful) (hA : ∀ t, s.transaction? id = some t → t.account = A)
    (h : Settled now id approved r c) : Confined A s c.deeds := by
  cases r with
  | error e =>
      rw [show c.deeds = [] from h]
      exact Confined.nil A s
  | ok row =>
      obtain ⟨-, s₁, old, found, -, -, hdeeds⟩ := h
      rw [hdeeds]
      refine Confined.singleton ?_
      -- the row that was settled is the one that the store had before, so its account is known
      rintro rfl
      obtain rfl := hA old found
      exact Store.sameBut_settlement hl found

end TopUps

/-! ## Operations -/

/-- Whether an operation is carried out for an account. A settlement is for the account of its
top-up. -/
def Operation.IsFor (s : Store) (A : Int) : Operation → Prop
  | getBalance account => account = A
  | lockBalance account => account = A
  | purchase account _ => account = A
  | preview account _ => account = A
  | requestTopUp account _ _ _ => account = A
  | settle id _ => ∀ t, s.transaction? id = some t → t.account = A
  | history account _ => account = A
  | stats account _ => account = A
  | owns account _ => account = A
  | signals account => account = A
  | shelf account => account = A
  | download account _ => account = A
  | recommend account _ => account = A
  | _ => False

namespace Operation

variable {settings : Settings} {op : Operation}

theorem IsFor.isOffered (h : op.IsFor s A) : op.isOffered = true := by
  cases op <;> first | rfl | cases h

/-- What an operation for an account commits is confined to it. -/
theorem Commits.confined {c : Course} (h : op.Commits settings now c) (hop : op.IsFor s A)
    (hl : s.Lawful) : Confined A s c.deeds := by
  cases op with
  | purchase account item =>
      obtain rfl : account = A := hop
      obtain ⟨r, hbought⟩ := h
      exact hbought.confined
  | requestTopUp account amount method reference =>
      obtain rfl : account = A := hop
      obtain ⟨a, r, hrequested⟩ := h
      exact hrequested.confined
  | settle id approved =>
      obtain ⟨r, hsettled⟩ := h
      exact hsettled.confined hl hop
  | _ => cases h

end Operation

/-- An operation for an account leaves alone what belongs to others. -/
theorem Ledger.sameBut_perform (l : Ledger) (f : Faults) {op : Operation}
    (hop : op.IsFor l.store A) (hl : l.store.Lawful) :
    l.store.SameBut A (l.perform (.failing f) op).2.store := by
  have hlenient : Lenient (Confined A l.store) :=
    ⟨Confined.nil A l.store, fun _ _ hds => hds.snoc_nil⟩
  have hsafe : (op.whole l.settings l.now).Safe (Strikes f)
      (fun _ c => Confined A l.store c.deeds) (.fresh l.store) :=
    Operation.safe_whole_with l.settings l.now hlenient hop.isOffered
      (fun _ hc => hc.confined hop hl) l.store
  obtain ⟨ds, hconfined, hds⟩ :=
    l.run_of_safe (P := fun _ ds => Confined A l.store ds) hsafe
  exact hconfined _ hds

end Scrip
