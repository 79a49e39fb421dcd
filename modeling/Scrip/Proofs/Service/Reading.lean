import Scrip.Proofs.Work.Reads
import Scrip.Service.Checkout
import Scrip.Service.Identity
import Scrip.Service.Suggestions
set_option autoImplicit false

/-! # Services that only read

What the services ask for that look up callers, balances, transactions, ownerships and suggestions.
None of it writes anything.
-/

namespace Scrip

open Script

variable {P : Statement → Prop} {account : Int}

namespace Credits

theorem asks_found (account : Int) (balance : Option Int) : (found account balance).Asks P := by
  cases balance <;> exact asks_done _

theorem asks_balance (h : P (.balance account)) : (balance account).Asks P :=
  asks_bind (asks_exec h) (asks_found account)

theorem asks_lockBalance (h : P (.lockBalance account)) : (lockBalance account).Asks P :=
  asks_bind (asks_exec h) (asks_found account)

theorem asks_deduct {amount : Quantity} (hdebit : P (.debit account amount))
    (hbalance : P (.balance account)) : (deduct account amount).Asks P := by
  refine asks_bind (asks_exec hdebit) fun done => ?_
  split
  · exact asks_done _
  · exact asks_bind (asks_balance hbalance) fun _ => asks_done _

end Credits

theorem Identity.reads_resolve (ttlSeconds : Int) (now : Moment) (credential : String) :
    (Identity.resolve ttlSeconds now credential).Reads := by
  refine asks_bind (asks_done _) fun after => asks_bind (asks_exec rfl) fun account => ?_
  cases account <;> exact asks_done _

theorem Identity.reads_authenticate (ttlSeconds : Int) (now : Moment) (header : Option String) :
    (Identity.authenticate ttlSeconds now header).Reads :=
  asks_bind (asks_done _) fun credential => reads_resolve ttlSeconds now credential

namespace Journal

theorem reads_get (id : Int) (lock : Bool) : (get id lock).Reads := by
  refine asks_bind (asks_exec rfl) fun row => ?_
  cases row <;> exact asks_done _

theorem asks_history {limit : Option Int} (h : P (.history account limit)) :
    (history account limit).Asks P :=
  asks_bind (asks_exec h) fun _ => asks_done _

theorem asks_stats {now : DateTime} (h : P (.history account none)) : (stats account now).Asks P :=
  asks_bind (asks_history h) fun _ => asks_done _

end Journal

namespace Registry

theorem asks_shelf (h : P (.shelf account)) : (shelf account).Asks P :=
  asks_bind (asks_exec h) fun _ => asks_done _

theorem asks_download {item : Int} (howns : P (.owns account item)) (hitem : P (.item item)) :
    (download account item).Asks P := by
  refine asks_bind (asks_exec howns) fun owned => ?_
  cases owned with
  | false => exact asks_done _
  | true =>
      refine asks_bind (asks_exec hitem) fun row => ?_
      cases fileOf row <;> exact asks_done _

end Registry

/-- The preview of a purchase is a unit of work that asks for the item and the account. -/
theorem Checkout.preview_asks {id : Int} (hitem : P (.item id)) (howns : P (.owns account id))
    (hbalance : P (.balance account)) :
    ∃ work, Checkout.preview account id = unitOfWork work ∧ work.Asks P := by
  refine ⟨_, rfl, ?_⟩
  refine asks_bind (asks_exec hitem) fun row => asks_bind (asks_exec howns) fun owned => ?_
  cases row with
  | none => exact asks_done _
  | some i =>
      dsimp only
      split
      · exact asks_bind (Credits.asks_balance hbalance) fun _ => asks_done _
      · exact asks_done _

theorem Checkout.preview_reads (account id : Int) :
    ∃ work, Checkout.preview account id = unitOfWork work ∧ work.Reads :=
  preview_asks rfl rfl rfl

namespace Suggestions

variable {α : Type} {load : Script α}

/-- Savepoints do not matter to a script that writes nothing. -/
theorem reads_guarded (h : load.Reads) : (guarded load).Reads := by
  refine asks_bind (asks_exec rfl) fun _ => asks_bind (asks_attempt h) fun r => ?_
  cases r with
  | ok a => exact asks_bind (asks_exec rfl) fun _ => asks_done _
  | error e => exact asks_bind (asks_exec rfl) fun _ => asks_done _

theorem reads_optional (h : load.Reads) : (Suggestions.optional load).Reads := by
  refine asks_bind (asks_attempt (reads_guarded h)) fun r => ?_
  cases r with
  | ok a => exact asks_done _
  | error e =>
      dsimp only
      split <;> exact asks_done _

theorem reads_signals (account : Int) : (signals account).Reads := by
  refine asks_bind (asks_exec rfl) fun owned => ?_
  refine asks_bind (reads_optional (asks_exec rfl)) fun subjects => ?_
  refine asks_bind (reads_optional (asks_exec rfl)) fun levels => ?_
  exact asks_bind (reads_optional (asks_exec rfl)) fun counts => asks_done _

theorem reads_recommend (account limit : Int) : (recommend account limit).Reads :=
  asks_bind (reads_signals account) fun _ => asks_bind (asks_exec rfl) fun _ => asks_done _

end Suggestions

end Scrip
