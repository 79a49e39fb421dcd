import Scrip.Http.Server
import Scrip.Service.Operation
import Scrip.Work.Faults
set_option autoImplicit false

/-! # The ledger

The whole of the ledger: the store, the settings and the clock. Work is done on it under given
conditions and leaves the committed store; the catalog is edited and the clock is set from
outside. In the course of time these events come one after another.
-/

namespace Scrip

structure Ledger where
  store : Store
  settings : Settings
  now : Moment

namespace Ledger

variable {α : Type}

/-- Runs a script on the ledger. What a session has not committed at its end is gone. -/
def run (l : Ledger) (c : Conditions) (script : Script α) : Except Failure α × Ledger :=
  let (r, st) := script.run c (Session.start l.store)
  (r, { l with store := st.committed })

def perform (l : Ledger) (c : Conditions) (op : Operation) :
    Except Failure Answer × Ledger :=
  l.run c (op.whole l.settings l.now)

def serve (l : Ledger) (c : Conditions) (request : Http.Request) :
    Except Failure Http.Response × Ledger :=
  l.run c (Http.serve l.settings l.now request)

/-- Edits an item of the catalog, and tells how many rows changed. -/
def editItem (l : Ledger) (id : Int) (edit : Item → Item) : Nat × Ledger :=
  let hit := l.store.items.filter (·.id == id)
  let items := l.store.items.map fun i => if i.id = id then edit i else i
  (hit.length, { l with store := { l.store with items := items } })

def setClock (l : Ledger) (now : Moment) : Ledger := { l with now := now }

end Ledger

/-! ## Events -/

/-- What happens to a ledger: an operation is carried out, with its own faults; an item of the
catalog is edited; the clock is set. -/
inductive Event where
  | work (faults : Faults) (op : Operation)
  | edit (item : Int) (change : Item → Item)
  | clock (now : Moment)

/-- Whether an event is one that callers and operators can bring about. -/
def Event.isOffered : Event → Bool
  | work _ op => op.isOffered
  | edit _ _ => true
  | clock _ => true

namespace Ledger

def after (l : Ledger) : Event → Ledger
  | .work faults op => (l.perform (.failing faults) op).2
  | .edit item change => (l.editItem item change).2
  | .clock now => l.setClock now

def afterAll (l : Ledger) (es : List Event) : Ledger := es.foldl after l

end Ledger

end Scrip
