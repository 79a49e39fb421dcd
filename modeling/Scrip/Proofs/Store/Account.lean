import Scrip.Proofs.Store.Lookup
import Scrip.Store.Write
set_option autoImplicit false

/-! # The rows of an account

Two ways to compare stores by accounts. `Store.SameBut` says that nothing differs but rows of one
account: what is done for an account does not go beyond it. `Store.SameFor` says that nothing that
belongs to one account differs, up to a change of ids: what other accounts have is not seen. Ids
may change because a new row gets the id after the largest one of all accounts.
-/

namespace Scrip

/-- A change of the ids of transactions and of ownerships. -/
structure Renaming where
  transaction : Int → Int := id
  ownership : Int → Int := id

def Renaming.none : Renaming := {}

def Transaction.renamed (ρ : Renaming) (t : Transaction) : Transaction :=
  { t with id := ρ.transaction t.id }

def Ownership.renamed (ρ : Renaming) (o : Ownership) : Ownership :=
  { o with id := ρ.ownership o.id, transaction := ρ.transaction o.transaction }

namespace Store

variable {A : Int} {s s' s'' : Store}

/-! ## Nothing but an account -/

/-- Nothing differs but rows of one account. -/
structure SameBut (A : Int) (s s' : Store) : Prop where
  items : s'.items = s.items
  logins : s'.logins = s.logins
  accounts : ∀ b, b ≠ A → s'.accounts.filter (·.id == b) = s.accounts.filter (·.id == b)
  log : ∀ b, b ≠ A →
    s'.transactions.filter (·.account == b) = s.transactions.filter (·.account == b)
  registry : ∀ b, b ≠ A → s'.ownedBy b = s.ownedBy b

namespace SameBut

theorem refl (A : Int) (s : Store) : s.SameBut A s :=
  ⟨rfl, rfl, fun _ _ => rfl, fun _ _ => rfl, fun _ _ => rfl⟩

theorem trans (h : s.SameBut A s') (h' : s'.SameBut A s'') : s.SameBut A s'' where
  items := h'.items.trans h.items
  logins := h'.logins.trans h.logins
  accounts := fun b hb => (h'.accounts b hb).trans (h.accounts b hb)
  log := fun b hb => (h'.log b hb).trans (h.log b hb)
  registry := fun b hb => (h'.registry b hb).trans (h.registry b hb)

end SameBut

theorem sameBut_balance (A : Int) (s : Store) (change : Int) :
    s.SameBut A (s.apply (.balance A change)) where
  items := rfl
  logins := rfl
  accounts := by
    intro b hb
    simp only [apply, changeBalance]
    induction s.accounts with
    | nil => rfl
    | cons a as ih =>
        by_cases ha : a.id = A
        · simp [ha, Ne.symm hb, ih]
        · simp [ha, List.filter_cons, ih]
  log := fun _ _ => rfl
  registry := fun _ _ => rfl

theorem sameBut_append {row : Transaction} (h : row.account = A) (s : Store) :
    s.SameBut A (s.apply (.append row)) where
  items := rfl
  logins := rfl
  accounts := fun _ _ => rfl
  log := by
    intro b hb
    simp [apply, h, Ne.symm hb]
  registry := fun _ _ => rfl

theorem sameBut_own {row : Ownership} (h : row.account = A) (s : Store) :
    s.SameBut A (s.apply (.own row)) where
  items := rfl
  logins := rfl
  accounts := fun _ _ => rfl
  log := fun _ _ => rfl
  registry := by
    intro b hb
    simp [ownedBy, apply, h, Ne.symm hb]

/-- A new state of a transaction of the account. -/
theorem sameBut_status (hl : s.Lawful) {id : Int} {row : Transaction}
    (found : s.transaction? id = some row) (status : String) (time : Option Moment) :
    s.SameBut row.account (s.apply (.status id status time)) where
  items := rfl
  logins := rfl
  accounts := fun _ _ => rfl
  log := by
    intro b hb
    have hrow : ∀ t ∈ s.transactions, t.id = id → t = row :=
      fun t ht hid => eq_of_transaction? hl found ht hid
    simp only [apply, changeStatus_eq_map]
    revert hrow
    induction s.transactions with
    | nil => exact fun _ => rfl
    | cons t ts ih =>
        intro hrow
        have hts := ih fun t' ht' => hrow t' (List.mem_cons_of_mem t ht')
        by_cases hid : t.id = id
        · obtain rfl := hrow t List.mem_cons_self hid
          simp [restate, hid, Ne.symm hb, hts]
        · simp [restate, hid, List.filter_cons, hts]
  registry := fun _ _ => rfl

/-! ## All of an account -/

variable {ρ : Renaming} {v v' : Store}

/-- Nothing differs that is in the catalog or belongs to one account, but for ids, which are
changed by `ρ`. -/
structure SameFor (A : Int) (ρ : Renaming) (s s' : Store) : Prop where
  items : s'.items = s.items
  accounts : s'.accounts.filter (·.id == A) = s.accounts.filter (·.id == A)
  log : s'.transactions.filter (·.account == A) =
    (s.transactions.filter (·.account == A)).map (·.renamed ρ)
  registry : s'.ownedBy A = (s.ownedBy A).map (·.renamed ρ)

namespace SameFor

theorem item? (h : v.SameFor A ρ v') (id : Int) : v'.item? id = v.item? id := by
  rw [Store.item?, Store.item?, h.items]

theorem balance? (h : v.SameFor A ρ v') : v'.balance? A = v.balance? A := by
  rw [Store.balance?, Store.balance?, ← List.head?_filter, ← List.head?_filter, h.accounts]

theorem owns (h : v.SameFor A ρ v') (item : Int) : v'.owns A item = v.owns A item := by
  have hany : ∀ s : Store, s.owns A item = (s.ownedBy A).any (·.item == item) := by
    intro s
    simp [Store.owns, ownedBy]
  rw [hany, hany, h.registry, List.any_map]
  rfl

theorem balance (h : v.SameFor A ρ v') (change : Int) :
    (v.apply (.balance A change)).SameFor A ρ (v'.apply (.balance A change)) where
  items := h.items
  accounts := by
    have hfilter : ∀ accounts : List Account,
        (changeBalance accounts A change).filter (·.id == A) =
          changeBalance (accounts.filter (·.id == A)) A change := by
      intro accounts
      simp only [changeBalance, List.filter_map]
      congr 1
      refine List.filter_congr fun a _ => ?_
      simp only [Function.comp_apply]
      split <;> rfl
    simp only [apply, hfilter, h.accounts]
  log := h.log
  registry := h.registry

theorem append (h : v.SameFor A ρ v') {row : Transaction} (hrow : row.account = A) :
    (v.apply (.append row)).SameFor A ρ (v'.apply (.append (row.renamed ρ))) where
  items := h.items
  accounts := h.accounts
  log := by
    have hrow' : (row.renamed ρ).account = A := hrow
    simp [apply, h.log, hrow, hrow']
  registry := h.registry

theorem own (h : v.SameFor A ρ v') {row : Ownership} (hrow : row.account = A) :
    (v.apply (.own row)).SameFor A ρ (v'.apply (.own (row.renamed ρ))) where
  items := h.items
  accounts := h.accounts
  log := h.log
  registry := by
    have hrow' : (row.renamed ρ).account = A := hrow
    have hregistry := h.registry
    unfold ownedBy at hregistry ⊢
    simp [apply, hregistry, hrow, hrow']

end SameFor

/-! ## What an account sees of itself -/

/-- The rows of the log that belong to the account are the same. -/
theorem SameFor.rows (h : s.SameFor A .none s') :
    s'.transactions.filter (·.account == A) = s.transactions.filter (·.account == A) :=
  h.log.trans (List.map_id _)

theorem SameFor.ownedBy (h : s.SameFor A .none s') : s'.ownedBy A = s.ownedBy A :=
  h.registry.trans (List.map_id _)

theorem SameFor.history (h : s.SameFor A .none s') (limit : Option Int) :
    s'.history A limit = s.history A limit := by
  have htitle : s'.titleOf = s.titleOf := by
    funext t
    rw [titleOf, titleOf]
    cases t.item with
    | none => rfl
    | some id => exact congrArg (Option.map _) (h.item? id)
  rw [Store.history, Store.history, h.rows, htitle]

/-- Every item that an account owns was paid for by a transaction of its own. -/
def PaysItself (s : Store) (A : Int) : Prop :=
  ∀ o ∈ s.ownerships, o.account = A →
    ∃ t ∈ s.transactions, t.id = o.transaction ∧ t.account = A

theorem SameFor.shelf (h : s.SameFor A .none s') (hl : s.Lawful) (hl' : s'.Lawful)
    (hpays : s.PaysItself A) : s'.shelf A = s.shelf A := by
  rw [Store.shelf, Store.shelf, h.ownedBy]
  -- the payer is the account itself, so both stores find the same transaction under the id
  refine congrArg (List.mergeSort · _) (List.filterMap_congr fun o ho => ?_)
  obtain ⟨ho, hA⟩ := List.mem_filter.mp ho
  obtain ⟨t, ht, hid, haccount⟩ := hpays o ho (beq_iff_eq.mp hA)
  have ht' : t ∈ s'.transactions := by
    have hmem : t ∈ s'.transactions.filter (·.account == A) := by
      rw [h.rows]
      exact List.mem_filter.mpr ⟨ht, beq_iff_eq.mpr haccount⟩
    exact List.mem_of_mem_filter hmem
  rw [h.item?, ← hid, transaction?_of_mem hl ht, transaction?_of_mem hl' ht']

/-! ## New ids -/

/-- Every ownership refers to a transaction that exists. -/
def HasPayments (s : Store) : Prop :=
  ∀ o ∈ s.ownerships, o.transaction ∈ s.transactions.map (·.id)

def newId (s : Store) : Int := nextId (s.transactions.map (·.id))

def newOwn (s : Store) : Int := nextId (s.ownerships.map (·.id))

/-- The change of ids that puts the next ids of one store in the place of those of another. -/
def renumber (s s' : Store) : Renaming where
  transaction id := if id = s.newId then s'.newId else id
  ownership id := if id = s.newOwn then s'.newOwn else id

theorem renumber_newId (s s' : Store) : (s.renumber s').transaction s.newId = s'.newId := if_pos rfl

theorem renumber_newOwn (s s' : Store) : (s.renumber s').ownership s.newOwn = s'.newOwn :=
  if_pos rfl

theorem renumber_of_mem {id : Int} (s' : Store) (h : id ∈ s.transactions.map (·.id)) :
    (s.renumber s').transaction id = id :=
  if_neg fun heq => nextId_notMem _ (heq ▸ h)

theorem renumber_own_of_mem {id : Int} (s' : Store) (h : id ∈ s.ownerships.map (·.id)) :
    (s.renumber s').ownership id = id :=
  if_neg fun heq => nextId_notMem _ (heq ▸ h)

/-- The ids of rows that exist do not change. -/
theorem SameFor.renumber (h : s.SameFor A .none s') (hp : s.HasPayments) :
    s.SameFor A (s.renumber s') s' where
  items := h.items
  accounts := h.accounts
  log := by
    refine h.log.trans (List.map_congr_left fun t ht => ?_)
    have hid := renumber_of_mem s' (List.mem_map_of_mem (List.mem_of_mem_filter ht))
    rw [Transaction.renamed, Transaction.renamed, hid]
    rfl
  registry := by
    refine h.registry.trans (List.map_congr_left fun o ho => ?_)
    have hmem := List.mem_of_mem_filter ho
    rw [Ownership.renamed, Ownership.renamed, renumber_of_mem s' (hp o hmem),
      renumber_own_of_mem s' (List.mem_map_of_mem hmem)]
    rfl

end Store

end Scrip
