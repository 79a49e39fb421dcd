import Scrip.Recommendation.Picks
import Scrip.Service.Journal
import Scrip.Service.Registry
set_option autoImplicit false

/-! # Suggestions

Recommendations for an account from what is stored. Each signal of a tier is loaded inside a
savepoint of its own; a storage fault there makes the signal absent and nothing else. The owned
items and the catalog are needed by every tier, so their loss is a failure.
-/

namespace Scrip.Suggestions

open Script

variable {α : Type}

/-- Loads something inside a savepoint. -/
def guarded (load : Script α) : Script α := do
  exec .savepoint
  match ← load.attempt with
  | .ok a =>
    exec .release
    return a
  | .error e =>
    exec .rewind
    fail e

/-- Loads a signal; a storage fault makes it absent. -/
def optional (load : Script α) : Script (Option α) := do
  match ← (guarded load).attempt with
  | .ok a => return some a
  | .error e => if e.isStorage then return none else fail e

def signals (account : Int) : Script Signals := do
  let owned ← Registry.ownedIds account
  let subjects ← optional (Registry.subjects account)
  let levels ← optional (Registry.levels account)
  let counts ← optional Journal.purchaseCounts
  return ⟨owned, subjects, levels, counts⟩

def recommend (account limit : Int) : Script (List Pick) := do
  let known ← signals account
  let catalog ← exec .published
  ofExcept (Recommendation.recommend catalog known limit)

end Scrip.Suggestions
