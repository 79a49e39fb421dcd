import Scrip.Proofs.Ledger.Deed
import Scrip.Proofs.Service.Checkout
import Scrip.Proofs.Store.Account
import Scrip.Proofs.Work.Calm
import Scrip.Service.TopUps
set_option autoImplicit false

/-! # Services in calm conditions

What the services answer, and what they leave, when nothing fails: the owner of an item gets its
file, a preview tells what it has read, a purchase either is declined by its decision and leaves
nothing, or commits exactly the sale, and the request of a top-up that is accepted commits one row.
-/

namespace Scrip

open Script

variable {account id held : Int} {item : Item} {a : Standing}

/-! ## Credits and ownerships -/

namespace Credits

theorem calm_balance (h : a.view.balance? account = some held) :
    (balance account).Calm a (.ok held) a := by
  refine calm_bind (calm_read rfl rfl) ?_
  rw [h]
  exact calm_done _

theorem calm_lockBalance (h : a.view.balance? account = some held) :
    (lockBalance account).Calm a (.ok held) a := by
  refine calm_bind (calm_read rfl rfl) ?_
  rw [h]
  exact calm_done _

/-- A balance that covers the amount is lowered. -/
theorem calm_deduct {n : Int} (hn : 0 < n) (h : a.view.balance? account = some held)
    (hle : n ≤ held) :
    (deduct account (.whole n)).Calm a (.ok true)
      ⟨a.store, a.pending ++ [.balance account (-n)]⟩ := by
  have hanswer : Statement.answer a.view (.debit account (.whole n)) =
      .ok (true, [.balance account (-n)]) := by
    simp [Statement.answer, Statement.answerDebit, Quantity.positive, hn, h, hle]
  exact calm_bind (calm_exec hanswer) (calm_done _)

end Credits

namespace Registry

theorem calm_owns : (owns account id).Calm a (.ok (a.view.owns account id)) a :=
  calm_read rfl rfl

theorem calm_ownedIds : (ownedIds account).Calm a (.ok (a.view.ownedIds account)) a :=
  calm_read rfl rfl

theorem calm_grant {t : Int} (howns : a.view.owns account id = false)
    (hpaid : a.view.ownerships.any (·.transaction == t) = false) :
    (grant account id t).Calm a (.ok ⟨a.view.newOwn, account, id, t⟩)
      ⟨a.store, a.pending ++ [.own ⟨a.view.newOwn, account, id, t⟩]⟩ := by
  have hanswer : Statement.answer a.view (.grant account id t) =
      .ok (⟨a.view.newOwn, account, id, t⟩, [.own ⟨a.view.newOwn, account, id, t⟩]) := by
    simp [Statement.answer, Statement.answerGrant, howns, hpaid, Store.newOwn]
  exact calm_exec hanswer

/-- Who does not own an item is told so. -/
theorem calm_download_unowned (h : a.view.owns account id = false) :
    (download account id).Calm a (.error (.refused (.notEntitled id))) a := by
  refine calm_bind calm_owns ?_
  rw [h]
  exact calm_done _

/-- Who owns an item gets its file if there is one. -/
theorem calm_download_owned (h : a.view.owns account id = true) :
    (download account id).Calm a
      (match fileOf (a.view.item? id) with
        | some file => .ok file
        | none => .error (.refused (.notFound "Item file" (toString id)))) a := by
  refine calm_bind calm_owns ?_
  rw [h, if_pos rfl]
  refine calm_bind (calm_read rfl rfl) ?_
  cases fileOf (a.view.item? id) <;> exact calm_done _

end Registry

theorem Journal.calm_appendPurchase {now : Moment} {price : Int} {status : Status}
    {note : Option String} :
    (appendPurchase account id price status note now).Calm a
      (.ok ((purchaseDraft account id price status note now).row a.view.newId))
      ⟨a.store, a.pending ++
        [.append ((purchaseDraft account id price status note now).row a.view.newId)]⟩ :=
  calm_exec rfl

/-! ## Previews and purchases -/

namespace Checkout

variable {s : Store} {now : Moment}

/-- The preview that an item has, if it has one. -/
def previewOf (s : Store) (account id balance : Int) : Except Failure Purchase.Preview :=
  match s.item? id with
  | none => .error (.refused (.itemUnavailable id))
  | some item =>
    if item.isForSale then .ok (Purchase.preview item (s.owns account id) balance)
    else .error (.refused (.itemUnavailable id))

/-- Undisturbed, a preview is a function of the store. -/
theorem calm_preview (h : s.balance? account = some held) :
    (preview account id).Calm ⟨s, []⟩ (previewOf s account id held) ⟨s, []⟩ := by
  have hend : (previewOf s account id held).mapError Failure.atEnd =
      previewOf s account id held := by
    unfold previewOf
    cases s.item? id with
    | none => rfl
    | some item =>
        dsimp only
        split <;> rfl
  rw [← hend]
  refine calm_unitOfWork (b := ⟨s, []⟩)
    (calm_bind (calm_read rfl rfl) (calm_bind Registry.calm_owns ?_))
  rw [previewOf, show Standing.view ⟨s, []⟩ = s from rfl]
  cases s.item? id with
  | none => exact calm_done _
  | some item =>
      dsimp only
      split
      · exact calm_bind (Credits.calm_balance h) (calm_done _)
      · exact calm_done _

/-- The ownership of a purchase and the commit, when the debit and the purchase are pending. -/
theorem calm_entitle (hp : s.HasPayments) (howns : s.owns account item.id = false)
    (h : s.balance? account = some held) :
    (entitle account item
        ((Journal.purchaseDraft account item.id item.price .completed none now).row s.newId)).Calm
      ⟨s, [.balance account (-item.price),
        .append ((Journal.purchaseDraft account item.id item.price .completed none now).row
          s.newId)]⟩
      (.ok (.ok (.committed item.id s.newId (held - item.price))))
      ⟨s.applyAll (saleWrites now account item s.newId s.newOwn), []⟩ := by
  -- no ownership can name the new transaction, for every one names an old one
  have hpaid : s.ownerships.any (·.transaction == s.newId) = false := by
    refine List.any_eq_false.mpr fun o ho hid => ?_
    have hmem := hp o ho
    rw [beq_iff_eq.mp hid] at hmem
    exact Store.nextId_notMem _ hmem
  have hleft : (s.applyAll (saleWrites now account item s.newId s.newOwn)).balance? account =
      some (held - item.price) := by
    simp only [saleWrites, Store.applyAll_cons, Store.applyAll_nil, Store.balance?_own,
      Store.balance?_append, Store.balance?_changeBalance_self, h, Option.map_some,
      Int.sub_eq_add_neg]
  refine calm_bind (calm_attempt (r := .ok (held - item.price))
    (calm_bind (Registry.calm_grant howns hpaid) ?_)) (calm_done _)
  refine calm_bind (Credits.calm_balance hleft) ?_
  exact calm_bind (calm_exec (q := .commit) rfl) (calm_done _)

theorem calm_write (hp : s.HasPayments) (hsale : item.isForSale = true)
    (howns : s.owns account item.id = false) (h : s.balance? account = some held)
    (hle : item.price ≤ held) :
    (write now account item).Calm ⟨s, []⟩
      (.ok (.ok (.committed item.id s.newId (held - item.price))))
      ⟨s.applyAll (saleWrites now account item s.newId s.newOwn), []⟩ := by
  refine calm_bind (calm_attempt (Credits.calm_deduct (Item.price_pos hsale) h hle)) ?_
  exact calm_bind (calm_attempt Journal.calm_appendPurchase) (calm_entitle hp howns h)

/-- What a purchase ends in when nothing disturbs it, and the store that it leaves. -/
def bought (s : Store) (now : Moment) (account id balance : Int) : Purchase.Outcome × Store :=
  match choose id (s.item? id) (s.owns account id) balance with
  | .error d => (.declined d, s)
  | .ok item => (.committed item.id s.newId (balance - item.price),
      s.applyAll (saleWrites now account item s.newId s.newOwn))

theorem calm_purchase (hp : s.HasPayments) (h : s.balance? account = some held) :
    (purchase now account id).Calm ⟨s, []⟩ (.ok (bought s now account id held).1)
      ⟨(bought s now account id held).2, []⟩ := by
  refine calm_unitOfWork (r := .ok _) (b := ⟨(bought s now account id held).2, []⟩) ?_
  refine calm_bind (calm_read rfl rfl) (calm_bind (Credits.calm_lockBalance h)
    (calm_bind Registry.calm_owns ?_))
  rw [bought, show Standing.view ⟨s, []⟩ = s from rfl]
  cases hchoice : choose id (s.item? id) (s.owns account id) held with
  | error d => exact calm_bind (calm_exec (q := .rollback) rfl) (calm_done _)
  | ok item =>
      obtain ⟨hfound, hsale, howns, hle⟩ := choose_eq_ok hchoice
      obtain rfl : item.id = id := Store.id_of_item? hfound
      exact calm_bind (calm_write hp hsale howns h hle) (calm_done _)

end Checkout

/-! ## Requests of top-ups -/

namespace TopUps

variable {s : Store} {settings : Settings} {now : Moment} {amount : Amount} {cents credits : Int}

theorem calm_request_refused {e : Failure} (h : quote settings amount = .error e) (method : String)
    (reference : Option String) :
    (request settings now account amount method reference).Calm ⟨s, []⟩ (.error e) ⟨s, []⟩ := by
  unfold request
  rw [h]
  exact calm_bind_error (calm_done _)

theorem calm_request_recorded (h : quote settings amount = .ok (cents, credits)) (method : String)
    (reference : Option String) :
    (request settings now account amount method reference).Calm ⟨s, []⟩
      (.ok ((Journal.topUpDraft account credits cents method reference now).row s.newId))
      ⟨s.apply (.append
        ((Journal.topUpDraft account credits cents method reference now).row s.newId)), []⟩ := by
  unfold request
  rw [h]
  refine calm_bind (calm_done _) (calm_bind (calm_exec rfl) ?_)
  exact calm_bind (calm_exec (q := .commit) rfl) (calm_done _)

end TopUps

end Scrip
