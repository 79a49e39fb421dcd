import Scrip.Proofs.Service.Credits
import Scrip.Proofs.Work.Scope
import Scrip.Service.Checkout
set_option autoImplicit false

/-! # What a purchase commits

A purchase that reports success has committed one sale, and every other purchase has committed
nothing or the note of its failure, whatever fails on the way and whatever other sessions do.
The invariant of the writes is `Debited`: the debit is pending, and since the row of the account
is closed to others, its balance covers the price until the commit.
-/

namespace Scrip.Checkout

open Script Purchase

variable {may : Statement → Failure → Prop} {now : Moment} {account id : Int} {item : Item}

/-! ## The decision -/

/-- An item that is chosen is the one that was read, for sale, and not dearer than the balance. -/
theorem choose_eq_ok {found : Option Item} {owned : Bool} {balance : Int}
    (h : choose id found owned balance = .ok item) :
    found = some item ∧ item.isForSale = true ∧ owned = false ∧ item.price ≤ balance := by
  unfold choose at h
  cases found with
  | none => simp [validate] at h
  | some i =>
      by_cases hsale : i.isForSale = true
      · cases owned with
        | true => simp [validate, hsale] at h
        | false =>
            by_cases hfunds : balance < i.price
            · simp [validate, hsale, checkFunds, hfunds] at h
            · simp only [validate, hsale, checkFunds, hfunds, Bool.not_true, Bool.false_eq_true,
                if_false, Except.ok.injEq] at h
              subst h
              exact ⟨rfl, hsale, rfl, by omega⟩
      · simp [validate, hsale] at h

/-! ## The writes -/

/-- The debit of a price is pending, with some further writes, and the balance covers it. -/
structure Debited (account : Int) (item : Item) (held : Int) (rest : List Write)
    (c : Course) : Prop where
  pending : c.pending = .balance account (-item.price) :: rest
  deeds : c.deeds = []
  offered : c.store.item? item.id = some item
  funds : c.store.balance? account = some held
  covered : item.price ≤ held

/-- The balance stays as it is, for the row is closed to others. -/
theorem Debited.on {held : Int} {rest : List Write} {c : Course}
    (h : Debited account item held rest c) {s : Store} (hs : Others c.pending c.store s) :
    Debited account item held rest (c.on s) where
  pending := h.pending
  deeds := h.deeds
  offered := (hs.grows.item? item.id).trans h.offered
  funds := by
    refine (hs.account account ?_).trans h.funds
    rw [h.pending, mem_closedRows]
    exact ⟨_, List.mem_cons_self, rfl⟩
  covered := h.covered

/-- A sale of an item to an account is all that has been committed. -/
def Sold (now : Moment) (account : Int) (item : Item) (t left : Int)
    (deeds : List (Store × List Write)) : Prop :=
  ∃ s own held, deeds = [(s, saleWrites now account item t own)] ∧
    s.item? item.id = some item ∧ s.balance? account = some held ∧ item.price ≤ held ∧
    left = held - item.price

/-- What the writes of a purchase have committed at their end. -/
def Written (now : Moment) (account : Int) (item : Item) (r : Except Failure Ending)
    (c : Course) : Prop :=
  match r with
  | .ok (.ok (.committed i t left)) => i = item.id ∧ Sold now account item t left c.deeds
  | _ => c.deeds = []

theorem safe_shortfall {c : Course} (hd : c.deeds = []) :
    Safe may (shortfall account item) (Written now account item) c := by
  refine safe_bind (safe_attempt (safe_bind (safe_discard (Or.inl rfl) ?_ ?_)))
  · intro s e after _
    exact hd
  · intro s _ _
    refine Credits.safe_balance ?_ ?_
    · intro s' e _
      exact hd
    · intro s' available _ _
      exact hd

/-- With the ownership and the commit the pending debit and purchase become a sale. -/
theorem safe_entitle {c : Course} {held t : Int} (hsale : item.isForSale = true)
    (h : Debited account item held
      [.append ((Journal.purchaseDraft account item.id item.price .completed none now).row t)] c) :
    Safe may (entitle account item
        ((Journal.purchaseDraft account item.id item.price .completed none now).row t))
      (Written now account item) c := by
  refine safe_bind (safe_attempt (safe_bind (safe_grant ?_ ?_)))
  · intro s e after _
    exact h.deeds
  intro s own hs
  -- the ownership is pending too
  have h₁ : Debited account item held
      [.append ((Journal.purchaseDraft account item.id item.price .completed none now).row t),
        .own ⟨own, account, item.id, t⟩]
      ⟨s, c.pending ++ [.own ⟨own, account, item.id, t⟩], c.deeds⟩ :=
    { h.on hs with pending := by rw [h.pending]; rfl }
  refine safe_bind (Credits.safe_balance ?_ ?_)
  · intro s' e _
    exact h.deeds
  intro s' left hs' hleft
  have h₂ := h₁.on hs'
  have hl : left = held - item.price := by
    have hfunds : s'.balance? account = some held := h₂.funds
    change (s'.applyAll (c.pending ++ [.own ⟨own, account, item.id, t⟩])).balance? account = _
      at hleft
    rw [show c.pending ++ _ = _ from h₁.pending] at hleft
    simp only [Store.applyAll_cons, Store.applyAll_nil, Store.balance?_own, Store.balance?_append,
      Store.balance?_changeBalance_self, hfunds, Option.map_some, Option.some.injEq] at hleft
    omega
  refine safe_bind (safe_commit ?_ ?_)
  · intro s'' e _
    exact h.deeds
  · intro s'' hs''
    have h₃ := h₂.on hs''
    have hw : c.pending ++ [.own ⟨own, account, item.id, t⟩] = saleWrites now account item t own :=
      h₁.pending
    constructor
    · show Deed s'' (c.pending ++ [.own ⟨own, account, item.id, t⟩])
      rw [hw]
      exact Deed.sale h₃.offered hsale h₃.funds h₃.covered
    · refine ⟨rfl, s'', own, held, ?_, h₃.offered, h₃.funds, h₃.covered, hl⟩
      show c.deeds ++ [(s'', c.pending ++ [.own ⟨own, account, item.id, t⟩])] = _
      rw [h.deeds, hw, List.nil_append]
      rfl

/-- The writes of a purchase commit a sale or nothing. -/
theorem safe_write {c : Course} (hp : c.pending = []) (hd : c.deeds = [])
    (hitem : c.store.item? item.id = some item) (hsale : item.isForSale = true) :
    Safe may (write now account item) (Written now account item) c := by
  refine safe_bind (safe_attempt (Credits.safe_deduct ?_ ?_ ?_))
  · intro s e after _
    exact hd
  · intro s _
    exact safe_shortfall hd
  intro s held hs _ hb hle
  -- from here on the row of the account is closed to others
  rw [hp, Store.applyAll_nil] at hb
  have h : Debited account item held []
      ⟨s, c.pending ++ [.balance account (-item.price)], c.deeds⟩ :=
    { pending := by rw [hp]; rfl
      deeds := hd
      offered := (hs.grows.item? item.id).trans hitem
      funds := hb
      covered := hle }
  refine safe_bind (safe_attempt (safe_append ?_ ?_))
  · intro s' e after _
    exact hd
  · intro s' t hs' _
    exact safe_entitle hsale { h.on hs' with pending := by rw [h.pending]; rfl }

/-! ## Compensation -/

/-- Nothing, or the note of a failure, is all that has been committed. -/
def AtMostNoted (now : Moment) (account id : Int) (deeds : List (Store × List Write)) : Prop :=
  deeds = [] ∨ ∃ s item text t, item.id = id ∧ s.item? id = some item ∧
    deeds = [(s, noteWrites now account item text t)]

/-- What a purchase has committed at its end: a sale if it reports one, at most the note of a
failure if it declines without detail, and otherwise nothing. -/
def Bought (now : Moment) (account id : Int) (r : Except Failure Outcome)
    (deeds : List (Store × List Write)) : Prop :=
  match r with
  | .ok (.committed i t left) =>
    i = id ∧ ∃ item, item.id = id ∧ item.isForSale = true ∧ Sold now account item t left deeds
  | .ok (.declined d) =>
    deeds = [] ∨ (d.reason = .internalError ∧ AtMostNoted now account id deeds)
  | .error _ => deeds = []

/-- After a compensation that succeeds nothing is pending, whether by rollback or by giving the
connection up. -/
theorem safe_compensate {c : Course} {Q : Except Failure Unit → Course → Prop}
    (fails : ∀ s e after, Others [] c.store s → Q (.error e) ⟨s, after, c.deeds⟩)
    (works : ∀ s, Others [] c.store s → Q (.ok ()) ⟨s, [], c.deeds⟩) :
    Safe may compensate Q c := by
  refine safe_bind (safe_attempt (safe_discard (Or.inl rfl) ?_ ?_))
  · intro s e after hs
    show Safe may (if e.isStorage then exec .invalidate else fail e) Q ⟨s, after, c.deeds⟩
    by_cases he : e.isStorage = true
    · rw [if_pos he]
      refine safe_discard (Or.inr rfl) ?_ ?_
      · intro s' e' after' hs'
        exact fails s' e' after' (hs.weaken.trans hs'.weaken)
      · intro s' _ hs'
        exact works s' (hs.weaken.trans hs'.weaken)
    · rw [if_neg he]
      exact fails s e after hs.weaken
  · intro s _ hs
    exact works s hs.weaken

/-- When the note is lost, the purchase is given up with nothing committed. -/
theorem safe_lose {c : Course} {d : Decline} {e : Failure} (hd : c.deeds = []) :
    Safe may
      (if e.isCancellation then do
        (fail e : Script Unit)
        return .declined d
      else do
        exec .rollback
        return .declined d)
      (fun r c' => Bought now account id r c'.deeds) c := by
  by_cases he : e.isCancellation = true
  · rw [if_pos he]
    exact hd
  · rw [if_neg he]
    refine safe_bind (safe_discard (Or.inl rfl) ?_ ?_)
    · intro s e' after _
      exact hd
    · intro s _ _
      exact Or.inl hd

/-- Giving up commits the note of the failure, or nothing if that fails as well. -/
theorem safe_giveUp {c : Course} {stage : Stage} {e : Failure} (hp : c.pending = [])
    (hd : c.deeds = []) (hitem : c.store.item? item.id = some item)
    (hsale : item.isForSale = true) :
    Safe may (giveUp now account item stage e)
      (fun r c' => Bought now account item.id r c'.deeds) c := by
  refine safe_bind (safe_attempt (safe_bind (safe_append ?_ ?_)))
  · intro s e' after _
    exact safe_lose hd
  · intro s t hs _
    have hitem₁ := (hs.grows.item? item.id).trans hitem
    rw [hp, List.nil_append]
    refine safe_commit ?_ ?_
    · intro s' e' _
      exact safe_lose hd
    · intro s' hs'
      have hitem₂ := (hs'.grows.item? item.id).trans hitem₁
      refine ⟨Deed.note hitem₂ hsale, Or.inr ⟨rfl, Or.inr
        ⟨s', item, failureNote stage e, t, rfl, hitem₂, ?_⟩⟩⟩
      show c.deeds ++ [(s', _)] = _
      rw [hd]
      rfl

/-- A purchase whose writes have failed has committed nothing so far. -/
theorem safe_recover {c : Course} {stage : Stage} {e : Failure} (hd : c.deeds = [])
    (hitem : c.store.item? item.id = some item) (hsale : item.isForSale = true) :
    Safe may (recover now account item stage e)
      (fun r c' => Bought now account item.id r c'.deeds) c := by
  unfold recover
  by_cases he : e.isCancellation = true
  · rw [if_pos he]
    exact hd
  · rw [if_neg he]
    refine safe_bind (safe_compensate ?_ ?_)
    · intro s e' after _
      exact hd
    · intro s hs
      show Safe may (if e.isIntegrity && stage == .granting then _ else _) _ _
      split
      · exact Or.inl hd
      · exact safe_giveUp rfl hd ((hs.grows.item? item.id).trans hitem) hsale

/-! ## The whole -/

/-- The lock on the balance keeps the item and the price that were read valid until the commit. -/
theorem safe_buy (s : Store) :
    Safe may (buy now account id) (fun r c => Bought now account id r c.deeds) (.fresh s) := by
  refine safe_bind (safe_read rfl ?_ ?_)
  · intro s₁ e _
    exact rfl
  intro s₁ found _ hfound
  obtain rfl := (Prod.mk.inj (Except.ok.inj hfound)).1
  refine safe_bind (Credits.safe_lockBalance ?_ ?_)
  · intro s₂ e _
    exact rfl
  intro s₂ balance hs₂ _
  refine safe_bind (safe_read rfl ?_ ?_)
  · intro s₃ e _
    exact rfl
  intro s₃ owned hs₃ _
  dsimp only [Then]
  split
  · rename_i d hd
    refine safe_bind (safe_discard (Or.inl rfl) ?_ ?_)
    · intro s₄ e after _
      exact rfl
    · intro s₄ _ _
      exact Or.inl rfl
  · rename_i item hitem
    obtain ⟨hfound, hsale, -, -⟩ := choose_eq_ok hitem
    have hid : item.id = id := Store.id_of_item? hfound
    subst hid
    -- the item is still the one that was read, for nobody changes the catalog
    have hitem₃ : s₃.item? item.id = some item :=
      (hs₃.grows.item? item.id).trans ((hs₂.grows.item? item.id).trans hfound)
    refine safe_bind ((safe_write rfl rfl hitem₃ hsale).catalog.mono ?_)
    rintro r c ⟨hr, hcatalog⟩
    -- an outcome of the writes is final; only their failure is recovered from
    match r with
    | .error e => exact hr
    | .ok (.ok (.committed i t left)) => exact ⟨hr.1, item, rfl, hsale, hr.2⟩
    | .ok (.ok (.declined d)) => exact Or.inl hr
    | .ok (.error (stage, e)) =>
        refine safe_recover hr ?_ hsale
        rw [Store.item?, hcatalog]
        exact hitem₃

/-- A purchase in a unit of work of its own. Only a failure to end the session can hide that it
was committed. -/
theorem safe_purchase (hclose : ∀ e, ¬ may .close e) (s : Store) :
    Safe may (purchase now account id) (Closed (Bought now account id)) (.fresh s) := by
  refine safe_unitOfWork ?_ ?_
  · intro e
    exact rfl
  · intro s' _
    refine (safe_buy s').mono ?_
    intro r c hr
    cases r with
    | ok outcome => exact ⟨hr, fun e he => absurd he (hclose e)⟩
    | error e => exact fun e' => hr

end Scrip.Checkout
