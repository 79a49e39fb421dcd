import Scrip.Error.Failure
import Scrip.Store.Row
set_option autoImplicit false

/-! # Tiers of recommendations

Four ways to pick items for an account: by the subjects it bought, by the levels it bought, by
how often others bought an item, and by how recently an item was published. Each tier accepts
some items and ranks them; the first three need a signal about the account or its peers, and a
signal that could not be loaded is absent.

Ranking puts the greater rank first and, among equal ranks, the smaller id. Where the rank is
the date of publication, an item without a date comes after all dated ones, and dates with and
without an offset cannot be ordered together.
-/

namespace Scrip

/-- The ways of picking items. -/
inductive Tier where
  | subject
  | level
  | popularity
  | recency
deriving DecidableEq, Repr

/-- What is known about an account for its recommendations. An absent signal is one whose
source was not available. -/
structure Signals where
  owned : List Int := []
  subjects : Option (List String) := some []
  levels : Option (List String) := some []
  counts : Option (List (Int × Int)) := some []

namespace Signals

/-- The count of an item in a list of counts; a later count of one item replaces an earlier
one, and an item without a count has zero. -/
def countIn (counts : List (Int × Int)) (id : Int) : Int :=
  counts.foldl (fun n c => if c.1 = id then c.2 else n) 0

/-- The number of purchases of an item, zero when the counts are absent. -/
def popularity (s : Signals) (id : Int) : Int :=
  match s.counts with
  | none => 0
  | some counts => countIn counts id

end Signals

namespace Tier

def name : Tier → String
  | subject => "subject"
  | level => "level"
  | popularity => "popularity"
  | recency => "recency"

/-- The tiers in the order in which they are asked. -/
def standard : List Tier := [subject, level, popularity, recency]

def ofName? (s : String) : Option Tier := standard.find? (·.name == s)

/-- Whether the signal of a tier is there; recency needs none. -/
def isAvailable (t : Tier) (s : Signals) : Bool :=
  match t with
  | subject => s.subjects.isSome
  | level => s.levels.isSome
  | popularity => s.counts.isSome
  | recency => true

def isAmong (texts : List String) (s : Option String) : Bool :=
  match s with
  | none => false
  | some s => texts.contains s

/-- Whether a tier accepts an item; without its signal it accepts none. -/
def accepts (t : Tier) (s : Signals) (item : Item) : Bool :=
  match t with
  | subject => isAmong (s.subjects.getD []) item.subject
  | level => isAmong (s.levels.getD []) item.level
  | popularity => decide (0 < s.popularity item.id)
  | recency => true

/-- The rank of an item in a tier; absence is the lowest rank. -/
def rank (t : Tier) (s : Signals) (item : Item) : Option Int :=
  match t with
  | popularity => some (s.popularity item.id)
  | _ => item.publishedAt.map (·.instant)

def atLeast : Option Int → Option Int → Bool
  | _, none => true
  | none, some _ => false
  | some x, some y => decide (y ≤ x)

/-- Whether the dates of some items cannot be ordered: one has an offset and one has none. -/
def clash (items : List Item) : Bool :=
  let dates := items.filterMap (·.publishedAt)
  dates.any (·.offset.isSome) && !dates.all (·.offset.isSome)

/-- Whether the rank of a tier is the date of publication. -/
def ranksByDate (t : Tier) : Bool := t != popularity

/-- The accepted items in the order of the tier: by id, then, keeping that order among equals,
by falling rank. -/
def order (t : Tier) (s : Signals) (accepted : List Item) : List Item :=
  (accepted.mergeSort fun a b => decide (a.id ≤ b.id)).mergeSort
    fun a b => atLeast (t.rank s a) (t.rank s b)

/-- The crash of a tier that has to judge an item without its signal. -/
def lacksSignal (t : Tier) : Failure :=
  match t with
  | popularity => .noAttribute
  | _ => .wrongType

/-- The candidates that a tier accepts, in its order. -/
def ranked (t : Tier) (s : Signals) (candidates : List Item) : Except Failure (List Item) :=
  let accepted := candidates.filter (t.accepts s)
  if !t.isAvailable s && !candidates.isEmpty then .error t.lacksSignal
  else if t.ranksByDate && clash accepted then .error .wrongType
  else .ok (t.order s accepted)

end Tier

end Scrip
