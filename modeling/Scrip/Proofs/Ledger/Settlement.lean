import Scrip.Proofs.Ledger.Run
import Scrip.Proofs.Service.Objections
set_option autoImplicit false

/-! # Settlements are exact

The settlement of a top-up, in a unit of work of its own and under any faults, raises what stands
against it or what a fault has given to one of its statements, and then nothing has changed; or it
returns, and then the state of the top-up has changed and, for an approval, the balance of its
account, by the amount of the row (`IsSettlement`). Since it returns for pending top-ups only, it
returns once.
-/

namespace Scrip

open Script

namespace TopUps

variable {id : Int} {approved : Bool} {now : Moment}

/-- What a settlement in a unit of work of its own has committed. -/
def SettledAlone (now : Moment) (id : Int) (approved : Bool) (r : Except Failure Transaction)
    (ds : List (Store × List Write)) : Prop :=
  match r with
  | .ok row => ∃ s old, s.transaction? id = some old ∧ old.IsPending ∧
      row = { old with status := (verdict approved).text, updatedAt := some now } ∧
      ds = [(s, settlement now id approved old)]
  | .error _ => ds = []

theorem safe_settleAlone {may : Statement → Failure → Prop} (hclose : ∀ e, ¬ may .close e)
    (s : Store) : Safe may (unitOfWork (settle now id approved))
      (Closed (SettledAlone now id approved)) (.fresh s) := by
  refine safe_unitOfWork (fun _ => rfl) fun s' _ => (safe_settle s').mono ?_
  intro r c hr
  cases r with
  | error e => exact fun _ => hr
  | ok row => exact ⟨hr.2, fun e he => absurd he (hclose e)⟩

end TopUps

open TopUps

/-- The difference that the settlement of a top-up makes between two stores: its state, and for an
approval the balance of its account. -/
structure IsSettlement (now : Moment) (approved : Bool) (t : Transaction) (s s' : Store) :
    Prop where
  items : s'.items = s.items
  logins : s'.logins = s.logins
  registry : s'.ownerships = s.ownerships
  log : s'.transactions =
    Store.changeStatus s.transactions t.id (verdict approved).text (some now)
  accounts : s'.accounts =
    if approved then Store.changeBalance s.accounts t.account t.amount else s.accounts
  credited : approved = true → 0 < t.amount ∧ ∃ held, s.balance? t.account = some held ∧
    s'.balance? t.account = some (held + t.amount)

theorem isSettlement_of_acceptable {s : Store} {now : Moment} {id : Int} {approved : Bool}
    {t : Transaction} (h : Acceptable s id approved t) :
    IsSettlement now approved t s (s.applyAll (settlement now id approved t)) := by
  obtain rfl : t.id = id := Store.id_of_transaction? h.found
  cases approved with
  | false => exact ⟨rfl, rfl, rfl, rfl, rfl, fun hpaid => by cases hpaid⟩
  | true =>
      refine ⟨rfl, rfl, rfl, rfl, rfl, fun _ => ⟨h.positive rfl, ?_⟩⟩
      obtain ⟨held, hfunds⟩ := h.funds rfl
      refine ⟨held, hfunds, ?_⟩
      simp only [settlement, approvalWrites, if_true, Store.applyAll_cons, Store.applyAll_nil,
        Store.balance?_changeBalance_self, Store.balance?_status, hfunds, Option.map_some]

/-- An attempt to settle a top-up: the outcome of the verification, the time, the settings that are
in force then, and what fails. -/
structure Attempt where
  approved : Bool
  time : Moment
  settings : Settings := {}
  faults : Faults := {}

/-- The faults spare the close of the session, which comes after the commit. -/
def Attempt.SparesClose (a : Attempt) : Prop :=
  ∀ before, a.faults.early before .close = none ∧ a.faults.late before .close = none

/-- What an attempt to settle a top-up comes to after the statements that it has asked, and the
store that it leaves. -/
structure Settles (s : Store) (id : Int) (a : Attempt) (asked : List Statement)
    (r : Except Failure Transaction) (s' : Store) : Prop where
  objected : ∀ reason, Objection s id a.approved reason →
    r = .error (.refused reason) ∨ a.faults.Spoils asked r
  accepted : ∀ t, Acceptable s id a.approved t →
    r = .ok { t with status := (verdict a.approved).text, updatedAt := some a.time } ∨
      a.faults.Spoils asked r
  failed : ∀ e, r = .error e → s' = s
  done : ∀ row, r = .ok row → ∃ t, s.transaction? id = some t ∧ t.IsPending ∧
    row = { t with status := (verdict a.approved).text, updatedAt := some a.time } ∧
    IsSettlement a.time a.approved t s s'

namespace Ledger

def attempt (l : Ledger) (id : Int) (a : Attempt) : Except Failure Transaction × Ledger :=
  { l with settings := a.settings }.run (.failing a.faults)
    (unitOfWork (settle a.time id a.approved))

def askedIn (l : Ledger) (id : Int) (a : Attempt) : List Statement :=
  l.asked (.failing a.faults) (unitOfWork (settle a.time id a.approved))

def attempts (l : Ledger) (id : Int) : List Attempt → List (Except Failure Transaction) × Ledger
  | [] => ([], l)
  | a :: as => ((l.attempt id a).1 :: ((l.attempt id a).2.attempts id as).1,
      ((l.attempt id a).2.attempts id as).2)

variable {l : Ledger} {a : Attempt}

/-- Each attempt comes to one of the listed ends. -/
theorem attempt_settles (hw : ∀ t ∈ l.store.transactions, t.IsWorded) (id : Int)
    (ha : a.SparesClose) :
    Settles l.store id a (l.askedIn id a) (l.attempt id a).1 (l.attempt id a).2.store := by
  have hclose : ∀ e, ¬ Strikes a.faults .close e := by
    rintro e ⟨before, he⟩
    rw [(ha before).1, (ha before).2] at he
    rcases he with he | he <;> cases he
  have hobjected : ∀ reason, Objection l.store id a.approved reason →
      (l.attempt id a).1 = .error (.refused reason) ∨
        a.faults.Spoils (l.askedIn id a) (l.attempt id a).1 := by
    intro reason h
    obtain ⟨b, hcalm⟩ := calm_settle_objection hw h
    exact run_failing passesOn_settle hcalm a.faults
  have haccepted : ∀ t, Acceptable l.store id a.approved t →
      (l.attempt id a).1 = .ok
        { t with status := (verdict a.approved).text, updatedAt := some a.time } ∨
        a.faults.Spoils (l.askedIn id a) (l.attempt id a).1 := by
    intro t h
    obtain ⟨b, hcalm⟩ := calm_settle_acceptable h
    exact run_failing passesOn_settle hcalm a.faults
  obtain ⟨ds, hsettled, hds⟩ := run_of_safe { l with settings := a.settings }
    ((safe_settleAlone hclose l.store).mono fun r c hr => hr.2)
  change SettledAlone a.time id a.approved (l.attempt id a).1 ds at hsettled
  change Deeds l.store ds (l.attempt id a).2.store at hds
  refine ⟨hobjected, haccepted, fun e he => ?_, fun row hrow => ?_⟩
  · rw [he] at hsettled
    rw [show ds = [] from hsettled] at hds
    exact hds.eq_of_nil
  · rw [hrow] at hsettled
    obtain ⟨s, t, hfound, hpending, rfl, rfl⟩ := hsettled
    obtain ⟨rfl, hs', -⟩ := hds.eq_of_singleton
    -- no objection stands against an attempt that has returned
    have hnone : ∀ reason, ¬ Objection l.store id a.approved reason := by
      intro reason h
      rcases hobjected reason h with hr | ⟨e, -, hr | hr⟩ <;> rw [hrow] at hr <;> cases hr
    obtain ⟨t', hacceptable⟩ := acceptable_of_no_objection hnone
    obtain rfl : t = t' := Option.some.inj (hfound.symm.trans hacceptable.found)
    refine ⟨t, hfound, hpending, rfl, ?_⟩
    rw [hs']
    exact isSettlement_of_acceptable hacceptable

/-! ## One after another -/

end Ledger

namespace IsSettlement

variable {s s' : Store} {now : Moment} {approved : Bool} {t : Transaction}

theorem transaction? (h : IsSettlement now approved t s s') (id : Int) :
    s'.transaction? id =
      (s.transaction? id).map (Store.restate t.id (verdict approved).text (some now)) := by
  rw [← Store.transaction?_status, Store.transaction?, h.log]
  rfl

/-- The words of the log stay words. -/
theorem worded (h : IsSettlement now approved t s s') (hw : ∀ t ∈ s.transactions, t.IsWorded) :
    ∀ t ∈ s'.transactions, t.IsWorded := by
  rw [h.log, Store.changeStatus_eq_map]
  intro t' ht'
  obtain ⟨old, hold, rfl⟩ := List.mem_map.mp ht'
  unfold Store.restate
  split
  · exact ⟨(hw old hold).1, _, rfl⟩
  · exact hw old hold

end IsSettlement

/-- A transaction that is no pending top-up. -/
def Store.IsDone (s : Store) (id : Int) : Prop :=
  ∃ t, s.transaction? id = some t ∧ ¬ t.IsPending

theorem IsSettlement.isDone {s s' : Store} {now : Moment} {approved : Bool} {t : Transaction}
    {id : Int} (h : IsSettlement now approved t s s') (found : s.transaction? id = some t) :
    s'.IsDone id := by
  refine ⟨_, (h.transaction? id).trans (congrArg _ found), fun hpending => ?_⟩
  have hstatus := hpending.2
  rw [Store.restate, if_pos rfl] at hstatus
  exact verdict_ne_pending approved (Status.text_inj.mp hstatus)

namespace Ledger

variable {l : Ledger} {id : Int}

/-- What is done stays as it is. -/
theorem attempts_of_isDone (hw : ∀ t ∈ l.store.transactions, t.IsWorded)
    (hdone : l.store.IsDone id) {as : List Attempt} (has : ∀ a ∈ as, a.SparesClose) :
    (∀ r ∈ (l.attempts id as).1, ∃ e, r = .error e) ∧ (l.attempts id as).2.store = l.store := by
  induction as generalizing l with
  | nil => exact ⟨fun _ hr => (by cases hr), rfl⟩
  | cons a as ih =>
      have hsettles := attempt_settles hw id (has a List.mem_cons_self)
      have herror : ∃ e, (l.attempt id a).1 = .error e := by
        cases hr : (l.attempt id a).1 with
        | error e => exact ⟨e, rfl⟩
        | ok row =>
            obtain ⟨t, hfound, hpending, -⟩ := hsettles.done row hr
            obtain ⟨t', hfound', hnot⟩ := hdone
            exact absurd (Option.some.inj (hfound.symm.trans hfound') ▸ hpending) hnot
      have hsame : (l.attempt id a).2.store = l.store := herror.elim hsettles.failed
      obtain ⟨hrest, hstore⟩ := ih (hsame ▸ hw) (hsame ▸ hdone)
        fun a' ha' => has a' (List.mem_cons_of_mem a ha')
      refine ⟨fun r hr => ?_, hstore.trans hsame⟩
      rcases List.mem_cons.mp hr with rfl | hr
      · exact herror
      · exact hrest r hr

/-- At most one attempt returns, and what it does is all that is done. -/
theorem attempts_once (hw : ∀ t ∈ l.store.transactions, t.IsWorded) {as : List Attempt}
    (has : ∀ a ∈ as, a.SparesClose) :
    (l.attempts id as).1.Pairwise (fun r r' => (∃ row, r = .ok row) → ∃ e, r' = .error e) ∧
      ((l.attempts id as).2.store = l.store ∨ ∃ a ∈ as, ∃ t, l.store.transaction? id = some t ∧
        t.IsPending ∧ IsSettlement a.time a.approved t l.store (l.attempts id as).2.store) := by
  induction as generalizing l with
  | nil => exact ⟨List.Pairwise.nil, Or.inl rfl⟩
  | cons a as ih =>
      have hsettles := attempt_settles hw id (has a List.mem_cons_self)
      have has' : ∀ a' ∈ as, a'.SparesClose := fun a' ha' => has a' (List.mem_cons_of_mem a ha')
      cases hr : (l.attempt id a).1 with
      | error e =>
          -- nothing has changed, so the others meet the store that this one has met
          have hsame := hsettles.failed e hr
          obtain ⟨hpairs, hend⟩ := ih (l := (l.attempt id a).2) (hsame ▸ hw) has'
          refine ⟨List.Pairwise.cons ?_ hpairs, ?_⟩
          · rintro r' - ⟨row, hok⟩
            rw [hr] at hok
            cases hok
          · rw [hsame] at hend
            refine hend.imp_right ?_
            rintro ⟨a', ha', h⟩
            exact ⟨a', List.mem_cons_of_mem a ha', h⟩
      | ok row =>
          -- the top-up is settled now, so the others raise and change nothing
          obtain ⟨t, hfound, hpending, -, hdiff⟩ := hsettles.done row hr
          obtain ⟨herrors, hsame⟩ :=
            attempts_of_isDone (hdiff.worded hw) (hdiff.isDone hfound) has'
          refine ⟨List.Pairwise.cons (fun r' hr' _ => herrors r' hr')
            (List.pairwise_of_forall_mem_list fun _ _ r' hr' _ => herrors r' hr'), Or.inr ?_⟩
          exact ⟨a, List.mem_cons_self, t, hfound, hpending, hsame ▸ hdiff⟩

end Ledger

/-- **Settlements are exact.** Under any faults that spare the close of its session, the settlement
of a top-up raises what stands against it, or the failure that a fault has given to one of its
statements, and then nothing has changed; or it returns and has changed the state of the row and,
for an approval, the balance of its account by the amount of the row, whatever the settings are by
then. Of any number of attempts at most one returns, and nothing but what that one does is done. -/
theorem settlement_is_exact {l : Ledger} (hw : ∀ t ∈ l.store.transactions, t.IsWorded) (id : Int) :
    (∀ a : Attempt, a.SparesClose →
      Settles l.store id a (l.askedIn id a) (l.attempt id a).1 (l.attempt id a).2.store) ∧
    ∀ as : List Attempt, (∀ a ∈ as, a.SparesClose) →
      (l.attempts id as).1.Pairwise (fun r r' => (∃ row, r = .ok row) → ∃ e, r' = .error e) ∧
      ((l.attempts id as).2.store = l.store ∨ ∃ a ∈ as, ∃ t, l.store.transaction? id = some t ∧
        t.IsPending ∧ IsSettlement a.time a.approved t l.store (l.attempts id as).2.store) :=
  ⟨fun _ ha => Ledger.attempt_settles hw id ha, fun _ has => Ledger.attempts_once hw has⟩

/-- The credits of an approval fail when they are written, then it succeeds at another rate, and a
rejection comes too late. -/
def Attempt.series : List Attempt :=
  [{ approved := true, time := 1,
     faults := { late := (Conditions.ofFaults [⟨.add, .storage .operational "lost"⟩] []).fault } },
    { approved := true, time := 2, settings := { creditsPerUnit := 3 } },
    { approved := false, time := 3 }]

theorem settlement_is_exact_kiosk :
    (∀ t ∈ Ledger.kiosk.store.transactions, t.IsWorded) ∧
      (∀ a ∈ Attempt.series, a.SparesClose) ∧
      (Ledger.kiosk.attempts 1 Attempt.series).1 =
        [.error (.refused StorageFault.operational.refusal),
          .ok { (Journal.topUpDraft 1 5 50 "manual" none 0).row 1 with
            status := "completed", updatedAt := some 2 },
          .error (.refused (.invalidTransition 1 "completed" "failed"))] ∧
      ∃ a ∈ Attempt.series, ∃ t, Ledger.kiosk.store.transaction? 1 = some t ∧ t.IsPending ∧
        IsSettlement a.time a.approved t Ledger.kiosk.store
          (Ledger.kiosk.attempts 1 Attempt.series).2.store := by
  have hw : ∀ t ∈ Ledger.kiosk.store.transactions, t.IsWorded := by
    intro t ht
    obtain rfl := List.mem_singleton.mp ht
    exact ⟨⟨.topup, rfl⟩, .pending, rfl⟩
  have hspares : ∀ a ∈ Attempt.series, a.SparesClose := by
    intro a ha before
    simp only [Attempt.series, List.mem_cons, List.not_mem_nil, or_false] at ha
    rcases ha with rfl | rfl | rfl <;> exact ⟨rfl, rfl⟩
  have hraised : (Ledger.kiosk.attempts 1 Attempt.series).2.store.balance? 1 = some 15 := by
    decide +kernel
  refine ⟨hw, hspares, by decide +kernel, ?_⟩
  refine (((settlement_is_exact hw 1).2 Attempt.series hspares).2).resolve_left fun hsame => ?_
  rw [hsame] at hraised
  exact absurd hraised (by decide)

end Scrip
