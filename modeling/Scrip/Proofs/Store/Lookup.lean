import Mathlib.Data.List.Basic
import Scrip.Store.Write
set_option autoImplicit false

/-! # Reading after writing

What the reads of single rows give after a write, and that the id after the largest one is new.
-/

namespace Scrip.Store

/-! ## Writes in order -/

@[simp] theorem applyAll_nil (s : Store) : s.applyAll [] = s := rfl

@[simp] theorem applyAll_cons (s : Store) (w : Write) (ws : List Write) :
    s.applyAll (w :: ws) = (s.apply w).applyAll ws := rfl

theorem applyAll_append (s : Store) (ws ws' : List Write) :
    s.applyAll (ws ++ ws') = (s.applyAll ws).applyAll ws' := by
  simp [applyAll, List.foldl_append]

/-! ## Balances -/

theorem balance?_changeBalance (s : Store) (account change a : Int) :
    (s.apply (.balance account change)).balance? a =
      if a = account then (s.balance? a).map (· + change) else s.balance? a := by
  simp only [balance?, apply, changeBalance]
  -- ids stay, so the search stops at the same row
  induction s.accounts with
  | nil => simp
  | cons x xs ih =>
      by_cases hx : x.id = a
      · subst hx
        by_cases ha : x.id = account <;> simp [ha]
      · have hx' : ∀ b : Int,
            (if x.id = account then { x with balance := b } else x).id = x.id := by
          intro b
          split <;> rfl
        simp only [List.map_cons, List.find?_cons, hx', beq_eq_false_iff_ne.mpr hx]
        exact ih

/-- The accounts that are there are those that have a balance. -/
theorem mem_accounts {s : Store} {account : Int} :
    account ∈ s.accounts.map (·.id) ↔ ∃ b, s.balance? account = some b := by
  rw [← Option.isSome_iff_exists, balance?, Option.isSome_map, List.find?_isSome, List.mem_map]
  simp only [beq_iff_eq]

@[simp] theorem balance?_append (s : Store) (row : Transaction) (a : Int) :
    (s.apply (.append row)).balance? a = s.balance? a := rfl

@[simp] theorem balance?_own (s : Store) (row : Ownership) (a : Int) :
    (s.apply (.own row)).balance? a = s.balance? a := rfl

@[simp] theorem balance?_status (s : Store) (id : Int) (status : String) (time : Option Moment)
    (a : Int) : (s.apply (.status id status time)).balance? a = s.balance? a := rfl

theorem balance?_changeBalance_self (s : Store) (account change : Int) :
    (s.apply (.balance account change)).balance? account =
      (s.balance? account).map (· + change) := by
  rw [balance?_changeBalance, if_pos rfl]

theorem balance?_changeBalance_of_ne (s : Store) {account a : Int} (change : Int)
    (h : a ≠ account) : (s.apply (.balance account change)).balance? a = s.balance? a := by
  rw [balance?_changeBalance, if_neg h]

/-! ## Transactions -/

@[simp] theorem transaction?_changeBalance (s : Store) (account change id : Int) :
    (s.apply (.balance account change)).transaction? id = s.transaction? id := rfl

theorem transaction?_append (s : Store) (row : Transaction) (id : Int) :
    (s.apply (.append row)).transaction? id =
      (s.transaction? id).or (if row.id = id then some row else none) := by
  simp only [transaction?, apply, List.find?_append, List.find?_cons, List.find?_nil]
  by_cases h : row.id = id
  · simp [h]
  · simp [h, beq_eq_false_iff_ne.mpr h]

theorem transaction?_append_of_some {s : Store} {t : Transaction} {id : Int}
    (row : Transaction) (h : s.transaction? id = some t) :
    (s.apply (.append row)).transaction? id = some t := by
  rw [transaction?_append, h, Option.some_or]

/-- The row of a transaction after a new state of another one, or of its own. -/
def restate (id : Int) (status : String) (time : Option Moment) (t : Transaction) :
    Transaction :=
  if t.id = id then
    { t with status := status, updatedAt := if time.isSome then time else t.updatedAt }
  else t

@[simp] theorem restate_id (id : Int) (status : String) (time : Option Moment)
    (t : Transaction) : (restate id status time t).id = t.id := by
  unfold restate
  split <;> rfl

theorem changeStatus_eq_map (rows : List Transaction) (id : Int) (status : String)
    (time : Option Moment) : changeStatus rows id status time = rows.map (restate id status time) :=
  rfl

theorem transaction?_status (s : Store) (id : Int) (status : String) (time : Option Moment)
    (i : Int) : (s.apply (.status id status time)).transaction? i =
      (s.transaction? i).map (restate id status time) := by
  simp only [transaction?, apply, changeStatus_eq_map, List.find?_map]
  congr 1
  congr 1
  funext t
  simp

theorem id_of_transaction? {s : Store} {id : Int} {t : Transaction}
    (h : s.transaction? id = some t) : t.id = id := by
  simpa using List.find?_some h

theorem mem_of_transaction? {s : Store} {id : Int} {t : Transaction}
    (h : s.transaction? id = some t) : t ∈ s.transactions :=
  List.mem_of_find?_eq_some h

def newIds (ws : List Write) : List Int :=
  ws.filterMap fun
    | .append row => some row.id
    | _ => none

theorem mem_newIds {ws : List Write} {row : Transaction} (h : .append row ∈ ws) :
    row.id ∈ newIds ws :=
  List.mem_filterMap.mpr ⟨_, h, rfl⟩

/-- The rows that writes append come after those that are there. -/
theorem ids_applyAll (s : Store) (ws : List Write) :
    (s.applyAll ws).transactions.map (·.id) = s.transactions.map (·.id) ++ newIds ws := by
  induction ws generalizing s with
  | nil => exact (List.append_nil _).symm
  | cons w ws ih =>
      rw [applyAll_cons, ih]
      cases w with
      | balance account change => rfl
      | own row => rfl
      | append row => simp [apply, newIds]
      | status id status time =>
          simp [apply, changeStatus_eq_map, List.map_map, Function.comp_def, newIds]

/-- With distinct ids a row of the log is what is found under its id. -/
theorem transaction?_of_mem {s : Store} (h : s.Lawful) {t : Transaction}
    (ht : t ∈ s.transactions) : s.transaction? t.id = some t := by
  have key : ∀ rows : List Transaction, (rows.map (·.id)).Nodup → t ∈ rows →
      rows.find? (·.id == t.id) = some t := by
    intro rows
    induction rows with
    | nil => intro _ hm; simp at hm
    | cons x xs ih =>
        intro hn hm
        rw [List.map_cons, List.nodup_cons] at hn
        rcases List.mem_cons.mp hm with rfl | hm
        · simp
        · have hne : x.id ≠ t.id := by
            intro he
            exact hn.1 (he ▸ List.mem_map_of_mem hm)
          rw [List.find?_cons_of_neg (by simpa using hne)]
          exact ih hn.2 hm
  exact key s.transactions h.log ht

/-- With distinct ids there is no other row under an id than the one that is found. -/
theorem eq_of_transaction? {s : Store} (h : s.Lawful) {id : Int} {row t : Transaction}
    (found : s.transaction? id = some row) (ht : t ∈ s.transactions) (hid : t.id = id) :
    t = row := by
  have hfound := transaction?_of_mem h ht
  rw [hid, found] at hfound
  exact (Option.some.inj hfound).symm

/-! ## Items -/

theorem items_apply (s : Store) (w : Write) : (s.apply w).items = s.items := by
  cases w <;> rfl

/-- The catalog is not written. -/
@[simp] theorem items_applyAll (s : Store) (ws : List Write) :
    (s.applyAll ws).items = s.items := by
  induction ws generalizing s with
  | nil => rfl
  | cons w ws ih => rw [applyAll_cons, ih, items_apply]

theorem id_of_item? {s : Store} {id : Int} {i : Item} (h : s.item? id = some i) : i.id = id := by
  simpa using List.find?_some h

/-! ## New ids -/

/-- The id after the largest one is new. -/
theorem nextId_notMem (ids : List Int) : nextId ids ∉ ids := by
  intro h
  unfold nextId at h
  cases hm : ids.max? with
  | none => simp_all
  | some n =>
      rw [hm] at h
      have := (List.max?_eq_some_iff.mp hm).2 (n + 1) h
      omega

end Scrip.Store
