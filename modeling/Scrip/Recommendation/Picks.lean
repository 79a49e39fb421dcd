import Scrip.Recommendation.Tier
set_option autoImplicit false

/-! # Recommendations

The tiers are asked in order until the wanted number of items is there. A tier chooses among
the published items that the account does not own and that no earlier tier has picked; a tier
whose signal is absent is passed over.
-/

namespace Scrip

/-- A recommended item, the tier that picked it, and its number of purchases. -/
structure Pick where
  item : Item
  tier : Tier
  popularity : Int
deriving DecidableEq, Repr

namespace Pick

def view (p : Pick) : Json :=
  .object [
    ("id", .int p.item.id),
    ("title", .text p.item.title),
    ("subject", .text p.item.shownSubject),
    ("level", .text p.item.shownLevel),
    ("price", .int p.item.price),
    ("popularity", .int p.popularity),
    ("reason", .text p.tier.name)]

end Pick

namespace Recommendation

def candidates (catalog : List Item) (excluded : List Int) : List Item :=
  catalog.filter fun item => item.published && !excluded.contains item.id

/-- Asks the tiers in order for `wanted` more items, none of them excluded. -/
def collect (catalog : List Item) (s : Signals) :
    Nat → List Int → List Tier → Except Failure (List Pick)
  | _, _, [] => .ok []
  | wanted, excluded, t :: ts =>
    if wanted = 0 then .ok []
    else if !t.isAvailable s then collect catalog s wanted excluded ts
    else
      match t.ranked s (candidates catalog excluded) with
      | .error e => .error e
      | .ok items =>
        let picked := items.take wanted
        match collect catalog s (wanted - picked.length)
            (picked.map (·.id) ++ excluded) ts with
        | .error e => .error e
        | .ok rest => .ok (picked.map (fun i => ⟨i, t, s.popularity i.id⟩) ++ rest)

/-- At most `limit` recommendations from the given tiers. -/
def recommend (catalog : List Item) (s : Signals) (limit : Int)
    (tiers : List Tier := Tier.standard) : Except Failure (List Pick) :=
  collect catalog s limit.toNat s.owned tiers

/-- The names of the tiers that are passed over. -/
def skipped (s : Signals) (tiers : List Tier := Tier.standard) : List String :=
  (tiers.filter fun t => !t.isAvailable s).map (·.name)

/-- A requested number of recommendations, forced between one and a maximum; without a request
the default. -/
def clampLimit (requested : Option Int) (default maximum : Int) : Int :=
  match requested with
  | none => default
  | some n => min (max n 1) maximum

end Recommendation

end Scrip
