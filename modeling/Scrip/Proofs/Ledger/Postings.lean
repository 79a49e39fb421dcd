import Mathlib.Data.Int.Order.Basic
import Scrip.Proofs.Ledger.Conservation
import Scrip.Proofs.Service.Calm
import Scrip.Proofs.Service.Objections
set_option autoImplicit false

/-! # Postings

Credits are added to accounts and deducted from them by single calls, any number of which may be
made in one unit of work. `Credits.Effect` says what a call ends in and what it leaves, by the store
that it finds. A run of calls is accounted for by its postings, the calls with their results: the
accounts at the end are those of the beginning, each raised by what was added to it and lowered by
what was deducted from it (`Store.posted`).
-/

namespace Scrip

/-- The spelling of a quantity in a refusal. -/
def Quantity.spelled : Quantity → String
  | whole n => toString n
  | other spelling => spelling

theorem Quantity.positive_eq_error {q : Quantity} (h : ∀ n, q = .whole n → n ≤ 0) :
    q.positive = .error (refusal q.spelled) := by
  cases q with
  | whole n => exact if_neg (Int.not_lt.mpr (h n rfl))
  | other spelling => rfl

namespace Credits

open Script

/-! ## Deductions in a session -/

section

variable {a : Standing} {account held n : Int} {q : Quantity} {reason : Refusal}

theorem calm_deduct_refused (h : q.positive = .error reason) :
    (deduct account q).Calm a (.error (.refused reason)) a := by
  have hanswer : Statement.answer a.view (.debit account q) = .error (.refused reason) := by
    simp [Statement.answer, Statement.answerDebit, h]
  exact calm_bind_error (calm_exec_error (by simp) hanswer)

/-- The debit hits no row, and the balance that is read then is missing. -/
theorem calm_deduct_absent (hn : 0 < n) (h : a.view.balance? account = none) :
    (deduct account (.whole n)).Calm a (.error (.refused (.accountNotFound account))) a := by
  have hanswer : Statement.answer a.view (.debit account (.whole n)) = .ok (false, []) := by
    simp [Statement.answer, Statement.answerDebit, Quantity.positive, hn, h]
  refine calm_bind (calm_idle rfl hanswer) (calm_bind_error (calm_bind (calm_read rfl rfl) ?_))
  rw [h]
  exact calm_done _

/-- The debit hits no row, and the balance that is read then does not cover the amount. -/
theorem calm_deduct_short (hn : 0 < n) (h : a.view.balance? account = some held)
    (hlt : held < n) : (deduct account (.whole n)).Calm a (.ok false) a := by
  have hanswer : Statement.answer a.view (.debit account (.whole n)) = .ok (false, []) := by
    simp [Statement.answer, Statement.answerDebit, Quantity.positive, hn, h, Int.not_le.mpr hlt]
  exact calm_bind (calm_idle rfl hanswer) (calm_bind (calm_balance h) (calm_done _))

end

/-! ## Calls -/

/-- A call that is to change a balance. -/
inductive Call where
  | add (account : Int) (amount : Quantity)
  | deduct (account : Int) (amount : Quantity)
deriving DecidableEq, Repr

namespace Call

def account : Call → Int
  | add account _ => account
  | deduct account _ => account

def amount : Call → Quantity
  | add _ amount => amount
  | deduct _ amount => amount

def operation : Call → Operation
  | add account amount => .addCredits account amount
  | deduct account amount => .deductCredits account amount

end Call

/-- Calls one after another with what each ended in. A call that fails does not end the others. -/
def inTurn (settings : Settings) (now : Moment) :
    List Call → Script (List (Except Failure Answer))
  | [] => return []
  | c :: cs => do
    let r ← (c.operation.script settings now).attempt
    let rs ← inTurn settings now cs
    return r :: rs

/-- What a call ends in by the store that it finds, and the store that it leaves. An amount that is
not a positive whole number is refused whatever the account is. -/
inductive Effect (s : Store) : Call → Except Failure Answer → Store → Prop where
  | invalid {c : Call} (amount : ∀ n, c.amount = .whole n → n ≤ 0) :
      Effect s c (.error (.refused (Quantity.refusal c.amount.spelled))) s
  | missing {c : Call} {n : Int} (amount : c.amount = .whole n) (positive : 0 < n)
      (absent : s.balance? c.account = none) :
      Effect s c (.error (.refused (.accountNotFound c.account))) s
  | added {account n held : Int} (positive : 0 < n) (present : s.balance? account = some held) :
      Effect s (.add account (.whole n)) (.ok .nothing) (s.apply (.balance account n))
  | covered {account n held : Int} (positive : 0 < n) (present : s.balance? account = some held)
      (enough : n ≤ held) :
      Effect s (.deduct account (.whole n)) (.ok (.verdict true)) (s.apply (.balance account (-n)))
  | short {account n held : Int} (positive : 0 < n) (present : s.balance? account = some held)
      (lacking : held < n) :
      Effect s (.deduct account (.whole n)) (.ok (.verdict false)) s

namespace Effect

variable {s s' : Store} {c : Call} {r : Except Failure Answer}

/-- Every call has an effect. -/
theorem exists_effect (s : Store) (c : Call) : ∃ r s', Effect s c r s' := by
  -- in the order in which a call checks: the amount, the account, the balance
  by_cases hinvalid : ∀ n, c.amount = .whole n → n ≤ 0
  · exact ⟨_, _, invalid hinvalid⟩
  · push Not at hinvalid
    obtain ⟨n, hamount, hn⟩ := hinvalid
    cases hb : s.balance? c.account with
    | none => exact ⟨_, _, missing hamount hn hb⟩
    | some held =>
        cases c with
        | add account q =>
            obtain rfl : q = .whole n := hamount
            exact ⟨_, _, added hn hb⟩
        | deduct account q =>
            obtain rfl : q = .whole n := hamount
            rcases lt_or_ge held n with hlt | hle
            · exact ⟨_, _, short hn hb hlt⟩
            · exact ⟨_, _, covered hn hb hle⟩

/-- The effect of a call is what its script does in calm conditions. -/
theorem calm {a : Standing} (h : Effect a.view c r s') (settings : Settings) (now : Moment) :
    ∃ b, (c.operation.script settings now).Calm a r b ∧ b.view = s' := by
  have hview : ∀ w, (⟨a.store, a.pending ++ [w]⟩ : Standing).view = a.view.apply w :=
    fun w => Store.applyAll_append a.store a.pending [w]
  cases h with
  | invalid amount =>
      refine ⟨a, ?_, rfl⟩
      have hpositive := Quantity.positive_eq_error amount
      cases c with
      | add account q => exact calm_bind_error (calm_add_refused hpositive)
      | deduct account q => exact calm_bind_error (calm_deduct_refused hpositive)
  | missing amount positive absent =>
      refine ⟨a, ?_, rfl⟩
      cases c with
      | add account q =>
          obtain rfl : q = _ := amount
          exact calm_bind_error (calm_add_absent positive absent)
      | deduct account q =>
          obtain rfl : q = _ := amount
          exact calm_bind_error (calm_deduct_absent positive absent)
  | added positive present =>
      exact ⟨_, calm_bind (calm_add positive present) (calm_done _), hview _⟩
  | covered positive present enough =>
      exact ⟨_, calm_bind (calm_deduct positive present enough) (calm_done _), hview _⟩
  | short positive present lacking =>
      exact ⟨a, calm_bind (calm_deduct_short positive present lacking) (calm_done _), rfl⟩

/-- A deduction succeeds if and only if the balance covers a positive amount. -/
theorem verdict_iff {account n : Int} (h : Effect s (.deduct account (.whole n)) r s') :
    r = .ok (.verdict true) ↔ 0 < n ∧ ∃ held, s.balance? account = some held ∧ n ≤ held := by
  cases h with
  | invalid amount =>
      have hn := amount n rfl
      simp
      omega
  | missing amount positive absent =>
      have habsent : s.balance? account = none := absent
      simp [habsent]
  | covered positive present enough => exact ⟨fun _ => ⟨positive, _, present, enough⟩, fun _ => rfl⟩
  | short positive present lacking =>
      simp [present]
      omega

/-- No call makes a balance negative. -/
theorem solvent {account : Int} (h : Effect s c r s') (hs : s.Solvent account) :
    s'.Solvent account := by
  cases h with
  | invalid amount => exact hs
  | missing amount positive absent => exact hs
  | added positive present => exact hs.balance present (by omega)
  | covered positive present enough => exact hs.balance present (by omega)
  | short positive present lacking => exact hs

end Effect

/-! ## Postings -/

/-- A call and what it ended in. -/
structure Posting where
  call : Call
  result : Except Failure Answer

namespace Posting

/-- What a posting adds to an account. -/
def added (account : Int) : Posting → Int
  | ⟨.add a (.whole n), .ok _⟩ => if a = account then n else 0
  | _ => 0

def deducted (account : Int) : Posting → Int
  | ⟨.deduct a (.whole n), .ok (.verdict true)⟩ => if a = account then n else 0
  | _ => 0

variable (account : Int) (c : Call) (e : Failure)

@[simp] theorem added_error : added account ⟨c, .error e⟩ = 0 := by
  cases c <;> simp [added]

@[simp] theorem deducted_error : deducted account ⟨c, .error e⟩ = 0 := by
  cases c <;> simp [deducted]

end Posting

end Credits

/-- The store with what some postings add to each account and deduct from it. -/
def Store.posted (s : Store) (ps : List Credits.Posting) : Store :=
  { s with
    accounts := s.accounts.map fun row =>
      { row with
        balance := row.balance + (ps.map (·.added row.id)).sum -
          (ps.map (·.deducted row.id)).sum } }

namespace Store

variable {s : Store} {ps qs : List Credits.Posting}

theorem posted_append : s.posted (ps ++ qs) = (s.posted ps).posted qs := by
  simp only [posted, List.map_map, List.map_append, List.sum_append, Store.mk.injEq, and_true]
  refine List.map_congr_left fun row _ => ?_
  simp only [Function.comp_apply, Account.mk.injEq, true_and]
  omega

/-- Where as much is added as is deducted nothing changes. -/
theorem posted_eq_self (h : ∀ account,
    (ps.map (·.added account)).sum = (ps.map (·.deducted account)).sum) : s.posted ps = s := by
  have hrow : ∀ row : Account, { row with
      balance := row.balance + (ps.map (·.added row.id)).sum -
        (ps.map (·.deducted row.id)).sum } = row := by
    intro row
    rw [h, Int.add_sub_cancel]
  simp only [posted, hrow, List.map_id']

/-- One posting that changes what one account holds. -/
theorem apply_balance_eq_posted {p : Credits.Posting} {a change : Int}
    (h : ∀ account, p.added account - p.deducted account = if a = account then change else 0) :
    s.apply (.balance a change) = s.posted [p] := by
  simp only [apply, posted, mk.injEq, and_true, List.map_singleton, List.sum_singleton]
  refine List.map_congr_left fun row _ => ?_
  have hrow := h row.id
  by_cases ha : row.id = a
  · rw [if_pos ha.symm] at hrow
    rw [if_pos ha, Int.add_sub_assoc, hrow]
  · rw [if_neg (Ne.symm ha)] at hrow
    rw [if_neg ha, Int.add_sub_assoc, hrow, Int.add_zero]

theorem posted_nil : s.posted [] = s := posted_eq_self fun _ => rfl

theorem balance?_posted (account : Int) : (s.posted ps).balance? account =
    (s.balance? account).map fun held => held + (ps.map (·.added account)).sum -
      (ps.map (·.deducted account)).sum := by
  simp only [balance?, posted, List.find?_map, Option.map_map, Function.comp_def]
  refine Option.map_congr fun row hrow => ?_
  obtain rfl : row.id = account := beq_iff_eq.mp (List.find?_some hrow :)
  rfl

end Store

namespace Credits

open Script

variable {s s' : Store} {c : Call} {r : Except Failure Answer} {ps qs : List Posting}

/-- The effect of a call is what it posts. -/
theorem Effect.posted (h : Effect s c r s') : s' = s.posted [⟨c, r⟩] := by
  cases h with
  | invalid amount => exact (Store.posted_eq_self fun account => by simp).symm
  | missing amount positive absent => exact (Store.posted_eq_self fun account => by simp).symm
  | added positive present =>
      exact Store.apply_balance_eq_posted fun account => Int.sub_zero _
  | covered positive present enough =>
      refine Store.apply_balance_eq_posted fun account => ?_
      simp only [Posting.added, Posting.deducted]
      split <;> omega
  | short positive present lacking => exact (Store.posted_eq_self fun account => rfl).symm

/-! ## Runs -/

/-- Each posting is the effect of its call on the store that the ones before it leave. -/
def Follows (s : Store) : List Posting → Prop
  | [] => True
  | p :: ps => Effect s p.call p.result (s.posted [p]) ∧ Follows (s.posted [p]) ps

theorem follows_append : Follows s (ps ++ qs) ↔ Follows s ps ∧ Follows (s.posted ps) qs := by
  induction ps generalizing s with
  | nil => simp [Follows, Store.posted_nil]
  | cons p ps ih =>
      rw [List.cons_append, Follows, Follows, ih, ← Store.posted_append, List.singleton_append,
        and_assoc]

/-- Every list of calls has its postings. -/
theorem exists_follows (s : Store) (calls : List Call) :
    ∃ ps : List Posting, ps.map (·.call) = calls ∧ Follows s ps := by
  induction calls generalizing s with
  | nil => exact ⟨[], rfl, trivial⟩
  | cons c cs ih =>
      obtain ⟨r, s', h⟩ := Effect.exists_effect s c
      obtain rfl := h.posted
      obtain ⟨ps, hcalls, hps⟩ := ih (s.posted [⟨c, r⟩])
      exact ⟨⟨c, r⟩ :: ps, congrArg (c :: ·) hcalls, h, hps⟩

/-- No balance is negative after any of the calls. -/
theorem Follows.solvent (h : Follows s ps) {account : Int} (hs : s.Solvent account) :
    (s.posted ps).Solvent account := by
  induction ps generalizing s with
  | nil => rwa [Store.posted_nil]
  | cons p ps ih =>
      rw [← List.singleton_append, Store.posted_append]
      exact ih h.2 (h.1.solvent hs)

/-- An undisturbed unit of work makes just these postings. -/
theorem Follows.calm {a : Standing} (h : Follows a.view ps) (settings : Settings)
    (now : Moment) : ∃ b : Standing,
      (inTurn settings now (ps.map (·.call))).Calm a (.ok (ps.map (·.result))) b ∧
        b.view = a.view.posted ps := by
  -- each call starts where the one before it has left the session, with its writes still pending
  induction ps generalizing a with
  | nil => exact ⟨a, calm_done _, Store.posted_nil.symm⟩
  | cons p ps ih =>
      obtain ⟨b, hb, hview⟩ := h.1.calm settings now
      have hrest := h.2
      rw [← hview] at hrest
      obtain ⟨d, hd, hviewd⟩ := ih hrest
      refine ⟨d, calm_bind (calm_attempt hb) (calm_bind hd (calm_done _)), ?_⟩
      rw [hviewd, hview, ← Store.posted_append, List.singleton_append]

end Credits

namespace Ledger

open Credits

def post (l : Ledger) (calls : List Call) :
    Except Failure (List (Except Failure Answer)) × Ledger :=
  l.run .calm (Script.committing (inTurn l.settings l.now calls))

variable {l : Ledger} {ps : List Posting}

theorem post_of_follows (h : Follows l.store ps) :
    l.post (ps.map (·.call)) =
      (.ok (ps.map (·.result)), { l with store := l.store.posted ps }) := by
  obtain ⟨b, hb, hview⟩ := h.calm (a := ⟨l.store, []⟩) l.settings l.now
  have hwork : (do
      let rs ← inTurn l.settings l.now (ps.map (·.call))
      Script.exec .commit
      return rs : Script _).Calm ⟨l.store, []⟩ (.ok (ps.map (·.result))) ⟨b.view, []⟩ :=
    Script.calm_bind hb (Script.calm_bind (Script.calm_exec rfl) (Script.calm_done _))
  rw [show l.store.posted ps = b.view from hview.symm]
  exact run_calm (Script.calm_unitOfWork hwork)

end Ledger

namespace Credits

variable {l : Ledger} {ps : List Posting}

/-- How the calls of one unit of work are accounted for, with the postings that are made of them.
The postings of the first calls are what these calls alone would end in, and what they would leave;
each has the effect of its call; a deduction succeeds exactly if the balance covers it; no balance
is negative at any time; and to add an amount and then deduct it restores the accounts. -/
structure AccountedFor (l : Ledger) (ps : List Posting) : Prop where
  runs : ∀ part, part <+: ps → l.post (part.map (·.call)) =
    (.ok (part.map (·.result)), { l with store := l.store.posted part })
  effect : ∀ part p, part ++ [p] <+: ps →
    Effect (l.store.posted part) p.call p.result (l.store.posted (part ++ [p]))
  verdict : ∀ part account n r, part ++ [⟨.deduct account (.whole n), r⟩] <+: ps →
    (r = .ok (.verdict true) ↔
      0 < n ∧ ∃ held, (l.store.posted part).balance? account = some held ∧ n ≤ held)
  balance : ∀ part, part <+: ps → ∀ account, (l.store.posted part).balance? account =
    (l.store.balance? account).map fun held => held + (part.map (·.added account)).sum -
      (part.map (·.deducted account)).sum
  solvent : ∀ part, part <+: ps → ∀ account, (l.store.posted part).Solvent account
  roundTrip : ∀ account n held, 0 < n → (l.store.posted ps).balance? account = some held →
    l.post (ps.map (·.call) ++ [.add account (.whole n), .deduct account (.whole n)]) =
      (.ok (ps.map (·.result) ++ [.ok .nothing, .ok (.verdict true)]),
        { l with store := l.store.posted ps })

/-- An addition and the deduction of the same amount. -/
def backAndForth (account n : Int) : List Posting :=
  [⟨.add account (.whole n), .ok .nothing⟩,
    ⟨.deduct account (.whole n), .ok (.verdict true)⟩]

theorem posted_backAndForth (s : Store) (account n : Int) :
    s.posted (backAndForth account n) = s :=
  Store.posted_eq_self fun a => by simp [backAndForth, Posting.added, Posting.deducted]

theorem follows_backAndForth {s : Store} {account n held : Int} (hn : 0 < n)
    (hs : s.Solvent account) (present : s.balance? account = some held) :
    Follows s (backAndForth account n) := by
  have hadd := Effect.added hn present
  have hleft : (s.apply (.balance account n)).balance? account = some (held + n) := by
    rw [Store.balance?_changeBalance_self, present, Option.map_some]
  -- the balance was not negative before, so it covers what has been added
  have hdeduct := Effect.covered hn hleft (by have := hs held present; omega)
  have hpost := hadd.posted
  have hpost' := hdeduct.posted
  rw [hpost] at hadd
  rw [hpost', hpost] at hdeduct
  exact ⟨hadd, hdeduct, trivial⟩

/-- Sums over the postings give the balances, at every prefix of the calls. -/
theorem Follows.accountedFor (h : Follows l.store ps) (hs : ∀ account, l.store.Solvent account) :
    AccountedFor l ps := by
  have hpart : ∀ part, part <+: ps → Follows l.store part := by
    rintro part ⟨rest, rfl⟩
    exact (follows_append.mp h).1
  have heffect : ∀ part p, part ++ [p] <+: ps →
      Effect (l.store.posted part) p.call p.result (l.store.posted (part ++ [p])) := by
    intro part p hp
    rw [Store.posted_append]
    exact (follows_append.mp (hpart _ hp)).2.1
  refine ⟨fun part hp => Ledger.post_of_follows (hpart part hp), heffect, ?_, ?_, ?_, ?_⟩
  · intro part account n r hp
    exact (heffect part _ hp).verdict_iff
  · intro part _ account
    exact Store.balance?_posted account
  · intro part hp account
    exact (hpart part hp).solvent (hs account)
  · intro account n held hn present
    have hlonger : Follows l.store (ps ++ backAndForth account n) :=
      follows_append.mpr ⟨h, follows_backAndForth hn (h.solvent (hs account)) present⟩
    have hrun := Ledger.post_of_follows hlonger
    rw [Store.posted_append, posted_backAndForth, List.map_append, List.map_append] at hrun
    exact hrun

end Credits

/-- **Every sequence of credit operations is accounted for exactly**, call by call and over all
accounts. -/
theorem credit_calls_are_accounted_for {l : Ledger} (hs : ∀ account, l.store.Solvent account)
    (calls : List Credits.Call) :
    ∃ ps : List Credits.Posting, ps.map (·.call) = calls ∧ Credits.AccountedFor l ps := by
  obtain ⟨ps, hcalls, h⟩ := Credits.exists_follows l.store calls
  exact ⟨ps, hcalls, h.accountedFor hs⟩

/-- Two accounts, one of them without credits. -/
def Ledger.bank : Ledger :=
  { kiosk with store := { kiosk.store with accounts := [⟨1, 10⟩, ⟨2, 0⟩] } }

/-- Calls on both accounts and on one that is missing, with amounts that are refused, one that a
balance just covers, and one that it does not cover. -/
def Credits.Call.morning : List Credits.Call :=
  [.add 1 (.whole 5), .deduct 3 (.whole 0), .deduct 1 (.whole 15), .deduct 2 (.whole 1),
    .add 2 (.whole 7), .add 3 (.whole 4), .deduct 2 (.whole 3)]

theorem Ledger.bank_solvent (account : Int) : bank.store.Solvent account := by
  intro b hb
  obtain ⟨row, hrow, rfl⟩ := Option.map_eq_some_iff.mp hb
  have hall : ∀ row ∈ bank.store.accounts, 0 ≤ row.balance := by decide
  exact hall row (List.mem_of_find?_eq_some hrow)

theorem credit_calls_are_accounted_for_morning :
    (∀ account, Ledger.bank.store.Solvent account) ∧
      ∃ ps : List Credits.Posting, ps.map (·.call) = Credits.Call.morning ∧
        Credits.AccountedFor .bank ps ∧
        ps.map (·.result) =
          [.ok .nothing, .error (.refused (Quantity.refusal "0")), .ok (.verdict true),
            .ok (.verdict false), .ok .nothing, .error (.refused (.accountNotFound 3)),
            .ok (.verdict true)] ∧
        (Ledger.bank.store.posted ps).accounts = [⟨1, 0⟩, ⟨2, 4⟩] := by
  obtain ⟨ps, hcalls, h⟩ := credit_calls_are_accounted_for Ledger.bank_solvent Credits.Call.morning
  have hruns := h.runs ps (List.prefix_refl ps)
  rw [hcalls] at hruns
  have hresults := congrArg Prod.fst hruns
  have hstore := congrArg (·.2.store.accounts) hruns
  exact ⟨Ledger.bank_solvent, ps, hcalls, h, (Except.ok.inj hresults).symm, hstore.symm⟩

end Scrip
