import Scrip.Proofs.Service.Reading
import Scrip.Proofs.Store.Account
import Scrip.Proofs.Work.Pair
set_option autoImplicit false

/-! # A purchase in two stores

An account that buys an item cannot tell two stores apart that differ only in what belongs to
others: both purchases end alike, but for the ids of the new rows. The id of the new transaction is
the first thing in which the stores can differ, and it is the same one until the end of the
purchase, for whatever was recorded before is undone before anything is recorded again.
-/

namespace Scrip

open Script Session

/-! ## Sessions that have recorded nothing -/

/-- Whether a statement neither records a transaction or an ownership nor commits. -/
def Statement.recordsNothing : Statement → Bool
  | append _ => false
  | grant _ _ _ => false
  | settle _ _ _ _ => false
  | commit => false
  | _ => true

theorem Statement.records_of_recordsNothing {q : Statement} (hq : q.recordsNothing = true)
    {v : Store} {reply : q.Reply} {ws : List Write} (h : q.answer v = .ok (reply, ws)) :
    (v.applyAll ws).transactions = v.transactions ∧ (v.applyAll ws).ownerships = v.ownerships := by
  cases q with
  | credit account amount =>
      rcases yields_credit (yields_of_answer h) with ⟨-, rfl⟩ | ⟨-, n, held, -, -, rfl, -⟩ <;>
        exact ⟨rfl, rfl⟩
  | debit account amount =>
      rcases yields_debit (yields_of_answer h) with ⟨-, rfl⟩ | ⟨-, n, held, -, -, rfl, -⟩ <;>
        exact ⟨rfl, rfl⟩
  | append draft => cases hq
  | grant account item transaction => cases hq
  | settle id current new time => cases hq
  | commit => cases hq
  | _ =>
      obtain ⟨-, rfl⟩ := Prod.mk.inj (Except.ok.inj h)
      exact ⟨rfl, rfl⟩

namespace Session

variable {f : Faults} {st : Session} {q : Statement} {s : Store}

/-- Nothing is committed, and neither a transaction nor an ownership is pending. -/
structure Unrecorded (s : Store) (st : Session) : Prop where
  store : st.committed = s
  log : st.view.transactions = s.transactions
  registry : st.view.ownerships = s.ownerships

theorem unrecorded_of_pending (hstore : st.committed = s) (hpending : st.pending = []) :
    st.Unrecorded s := by
  have hview : st.view = s := by rw [view, hpending, hstore, Store.applyAll_nil]
  exact ⟨hstore, hview ▸ rfl, hview ▸ rfl⟩

theorem Unrecorded.execute (h : st.Unrecorded s) (hq : q.recordsNothing = true) :
    (st.execute (.failing f) q).2.Unrecorded s := by
  have hne : q ≠ .commit := by
    rintro rfl
    cases hq
  have hview : ((st.execute (.failing f) q).2.view.transactions = s.transactions) ∧
      (st.execute (.failing f) q).2.view.ownerships = s.ownerships := by
    rcases st.execute_cases f hne with ⟨e, -, hview⟩ | ⟨reply, ws, ha, -, hview⟩
    · rw [hview]
      split
      · exact ⟨h.store ▸ rfl, h.store ▸ rfl⟩
      · exact ⟨h.log, h.registry⟩
    · rw [hview]
      split
      · exact ⟨h.store ▸ rfl, h.store ▸ rfl⟩
      · obtain ⟨hlog, hregistry⟩ := Statement.records_of_recordsNothing hq ha
        exact ⟨hlog.trans h.log, hregistry.trans h.registry⟩
  exact ⟨(execute_committed_of_ne hne).trans h.store, hview.1, hview.2⟩

end Session

namespace Script

variable {α β : Type} {f : Faults} {st : Session} {s : Store}

def RecordsNothing (p : Script α) : Prop := p.Asks (·.recordsNothing = true)

theorem RecordsNothing.ends {p : Script α} (hp : p.RecordsNothing) (hst : st.Unrecorded s) :
    Ends (.failing f) p (fun _ st' => st'.Unrecorded s) st :=
  Asks.ends hp (fun _ _ hq hst => hst.execute hq) hst

theorem RecordsNothing.neverCommits {p : Script α} (hp : p.RecordsNothing) : p.NeverCommits := by
  refine hp.mono fun q hq => ?_
  rintro rfl
  cases hq

theorem recordsNothing_deduct (account : Int) (amount : Quantity) :
    (Credits.deduct account amount).RecordsNothing :=
  Credits.asks_deduct rfl rfl

/-- The first new row of the log gets the next id of the store, and nothing else is recorded. -/
theorem ends_append (hst : st.Unrecorded s) (draft : Draft) :
    Ends (.failing f) (exec (.append draft)) (fun r st' => st'.committed = s ∧
      st'.view.ownerships = s.ownerships ∧ ∀ t, r = .ok t → t = draft.row s.newId) st := by
  have hne : Statement.append draft ≠ .commit := by simp
  have hcommitted : (st.execute (.failing f) (.append draft)).2.committed = s :=
    (Session.execute_committed_of_ne hne).trans hst.store
  show _ ∧ (st.execute (.failing f) (.append draft)).2.view.ownerships = _ ∧
    ∀ t, (st.execute (.failing f) (.append draft)).1 = .ok t → _
  rcases st.execute_cases f hne with
    ⟨e, herror, hview⟩ | ⟨row, ws, ha, hreply, hview⟩
  · refine ⟨hcommitted, hview ▸ hst.registry, fun t ht => ?_⟩
    rw [herror] at ht
    cases ht
  · obtain ⟨hrow, rfl⟩ := Prod.mk.inj (Except.ok.inj ha)
    refine ⟨hcommitted, hview ▸ hst.registry, fun t ht => ?_⟩
    rcases hreply with hok | ⟨e, herror⟩
    · rw [hok] at ht
      rw [← Except.ok.inj ht, ← hrow, hst.log]
      rfl
    · rw [herror] at ht
      cases ht

/-- What a rollback or the loss of the connection leaves, if it succeeds. -/
theorem ends_discard {q : Statement} (hq : q = .rollback ∨ q = .invalidate)
    (hst : st.committed = s) :
    Ends (.failing f) (exec q) (fun r st' => st'.committed = s ∧
      ∀ u, r = .ok u → st'.Unrecorded s) st := by
  have hne : q ≠ .commit := by rcases hq with rfl | rfl <;> simp
  have hends : q.endsWork = true := by rcases hq with rfl | rfl <;> rfl
  have hcommitted : (st.execute (.failing f) q).2.committed = s :=
    (Session.execute_committed_of_ne hne).trans hst
  show _ ∧ ∀ u, (st.execute (.failing f) q).1 = .ok u → _
  refine ⟨hcommitted, fun u hu => ?_⟩
  rcases st.execute_cases f hne with
    ⟨e, herror, -⟩ | ⟨reply, ws, -, -, hview⟩
  · rw [herror] at hu
    cases hu
  · rw [if_pos hends, hst] at hview
    exact ⟨hcommitted, hview ▸ rfl, hview ▸ rfl⟩

theorem ends_compensate (hst : st.committed = s) :
    Ends (.failing f) Checkout.compensate (fun r st' => st'.committed = s ∧
      ∀ u, r = .ok u → st'.Unrecorded s) st := by
  refine ends_bind (ends_attempt ((ends_discard (Or.inl rfl) hst).mono ?_))
  rintro (e | _) st₁ ⟨hcommitted, hdone⟩
  · dsimp only [GoesOn]
    split
    · exact ends_discard (Or.inr rfl) hcommitted
    · exact ⟨hcommitted, fun _ h => (by cases h)⟩
  · exact ⟨hcommitted, fun _ _ => hdone _ rfl⟩

/-- A commit that fails has committed nothing. -/
theorem ends_commit (st : Session) :
    Ends (.failing f) (exec .commit) (fun r st' => ∀ e, r = .error e →
      st'.committed = st.committed) st := by
  show ∀ e, (st.execute (.failing f) .commit).1 = .error e →
    (st.execute (.failing f) .commit).2.committed = st.committed
  intro e he
  rw [st.execute_committed, he]
  rfl

end Script

/-! ## Reading -/

section Reading

variable {A : Int} {ρ : Renaming} {v v' : Store}

theorem Store.SameFor.answer_item (h : v.SameFor A ρ v') (id : Int) :
    Statement.answer v' (.item id) = Statement.answer v (.item id) :=
  congrArg (fun i => Except.ok (i, [])) (h.item? id)

theorem Store.SameFor.answer_owns (h : v.SameFor A ρ v') (item : Int) :
    Statement.answer v' (.owns A item) = Statement.answer v (.owns A item) :=
  congrArg (fun b => Except.ok (b, [])) (h.owns item)

theorem Store.SameFor.answer_balance (h : v.SameFor A ρ v') :
    Statement.answer v' (.balance A) = Statement.answer v (.balance A) :=
  congrArg (fun n => Except.ok (n, [])) h.balance?

theorem readsAlike_item (id : Int) : (exec (.item id)).ReadsAlike (Store.SameFor A ρ) :=
  asks_exec ⟨rfl, fun _ _ h => h.answer_item id⟩

theorem readsAlike_owns (item : Int) : (Registry.owns A item).ReadsAlike (Store.SameFor A ρ) :=
  asks_exec ⟨rfl, fun _ _ h => h.answer_owns item⟩

theorem readsAlike_balance : (Credits.balance A).ReadsAlike (Store.SameFor A ρ) :=
  Credits.asks_balance ⟨rfl, fun _ _ h => h.answer_balance⟩

theorem readsAlike_lockBalance : (Credits.lockBalance A).ReadsAlike (Store.SameFor A ρ) :=
  Credits.asks_lockBalance ⟨rfl, fun _ _ h => h.answer_balance⟩

end Reading

/-! ## Writing -/

namespace Checkout

open Purchase

def renamed (ρ : Renaming) : Outcome → Outcome
  | .committed item transaction remaining => .committed item (ρ.transaction transaction) remaining
  | .declined d => .declined d

variable {f : Faults} {A : Int} {s s' : Store} {st st' : Session} {now : Moment} {item : Item}

/-- A debit looks at one balance only. -/
theorem agree_debit {ρ : Renaming} {v v' : Store} (h : v.SameFor A ρ v') (amount : Quantity) :
    @Statement.Agree (Store.SameFor A ρ) (.debit A amount) (.debit A amount) id v v' := by
  cases hn : amount.positive with
  | error r =>
      have hrefused : ∀ v, Statement.answerDebit v A amount = .error (.refused r) := by
        intro v
        rw [Statement.answerDebit, hn]
      exact Statement.agree_error (hrefused v) (hrefused v')
  | ok n =>
      cases hb : v.balance? A with
      | none =>
          have hmissing : ∀ v, v.balance? A = none →
              Statement.answerDebit v A amount = .ok (false, []) := by
            intro v hv
            rw [Statement.answerDebit, hn, hv]
          exact Statement.agree_ok (hmissing v hb) (hmissing v' (h.balance?.trans hb)) rfl h
      | some held =>
          have hheld : ∀ v, v.balance? A = some held → Statement.answerDebit v A amount =
              if n ≤ held then .ok (true, [.balance A (-n)]) else .ok (false, []) := by
            intro v hv
            rw [Statement.answerDebit, hn, hv]
          have h₁ := hheld v hb
          have h₂ := hheld v' (h.balance?.trans hb)
          by_cases hle : n ≤ held
          · rw [if_pos hle] at h₁ h₂
            exact Statement.agree_ok h₁ h₂ rfl (h.balance _)
          · rw [if_neg hle] at h₁ h₂
            exact Statement.agree_ok h₁ h₂ rfl h

section

variable (hf : f.Blind) (hst : st.Twin (Store.SameFor A (s.renumber s')) st')

include hf hst

theorem both_deduct (amount : Quantity) :
    Both f id (Credits.deduct A amount) (Credits.deduct A amount)
      (fun _ => Twin (Store.SameFor A (s.renumber s'))) st st' := by
  refine both_bind ((both_exec hf hst (.refl _) (agree_debit hst.view amount)).mono ?_)
  rintro (e | done) st₁ st₁' hst₁
  · exact hst₁
  · cases done with
    | true => exact ⟨rfl, hst₁⟩
    | false =>
        simp only [Proceed, id_eq, Bool.false_eq_true, if_false]
        refine both_bind ((readsAlike_balance.both hf hst₁).mono ?_)
        rintro (e | held) st₂ st₂' hst₂
        · exact hst₂
        · exact ⟨rfl, hst₂⟩

theorem both_append (hs : st.Unrecorded s) (hs' : st'.Unrecorded s') {draft : Draft}
    (hA : draft.account = A) :
    Both f (Transaction.renamed (s.renumber s')) (exec (.append draft)) (exec (.append draft))
      (fun _ => Twin (Store.SameFor A (s.renumber s'))) st st' := by
  refine both_exec hf hst (.refl _) ?_
  -- the log is still as it was committed, so the row gets the next id of its store
  have hrow : draft.row (Store.nextId (st'.view.transactions.map (·.id))) =
      (draft.row (Store.nextId (st.view.transactions.map (·.id)))).renamed (s.renumber s') := by
    rw [hs.log, hs'.log, Transaction.renamed]
    show draft.row s'.newId =
      { draft.row s.newId with id := (s.renumber s').transaction s.newId }
    rw [Store.renumber_newId]
    rfl
  refine Statement.agree_ok rfl rfl hrow ?_
  show Store.SameFor A _ (st.view.apply (.append (draft.row _)))
    (st'.view.apply (.append (draft.row _)))
  rw [hrow]
  exact hst.view.append hA

/-- The new transaction has not paid for any ownership before, in either store. -/
theorem both_grant (hp : s.HasPayments) (hp' : s'.HasPayments)
    (hs : st.view.ownerships = s.ownerships) (hs' : st'.view.ownerships = s'.ownerships)
    (id : Int) :
    Both f (Ownership.renamed (s.renumber s')) (exec (.grant A id s.newId))
      (exec (.grant A id s'.newId)) (fun _ => Twin (Store.SameFor A (s.renumber s'))) st st' := by
  have hunpaid : ∀ {s v : Store}, s.HasPayments → v.ownerships = s.ownerships →
      v.ownerships.any (·.transaction == s.newId) = false := by
    intro s v hp hv
    rw [hv, List.any_eq_false]
    intro o ho heq
    exact Store.nextId_notMem _ (beq_iff_eq.mp heq ▸ hp o ho)
  have hanswer : ∀ {s v : Store}, s.HasPayments → v.ownerships = s.ownerships →
      Statement.answer v (.grant A id s.newId) =
        if v.owns A id then .error Statement.duplicate
        else .ok (⟨s.newOwn, A, id, s.newId⟩, [.own ⟨s.newOwn, A, id, s.newId⟩]) := by
    intro s v hp hv
    show Statement.answerGrant v A id s.newId = _
    rw [Statement.answerGrant, hunpaid hp hv, Bool.or_false, hv]
    rfl
  -- so only what the account owns itself can stand in the way, which both stores agree on
  have h₁ := hanswer hp hs
  have h₂ := hanswer hp' hs'
  rw [hst.view.owns] at h₂
  refine both_exec hf hst (.grant _ _ _ _) ?_
  by_cases howned : st.view.owns A id = true
  · rw [if_pos howned] at h₁ h₂
    exact Statement.agree_error h₁ h₂
  · rw [if_neg howned] at h₁ h₂
    have hrow : (⟨s'.newOwn, A, id, s'.newId⟩ : Ownership) =
        (⟨s.newOwn, A, id, s.newId⟩ : Ownership).renamed (s.renumber s') := by
      rw [Ownership.renamed, Store.renumber_newOwn, Store.renumber_newId]
    refine Statement.agree_ok h₁ h₂ hrow ?_
    show Store.SameFor A _ (st.view.apply (.own _)) (st'.view.apply (.own _))
    rw [hrow]
    exact hst.view.own rfl

/-- The two ownerships get the next ids of their stores, and from then on the ids are told apart by
the renumbering. -/
theorem both_entitle (hp : s.HasPayments) (hp' : s'.HasPayments)
    (hs : st.view.ownerships = s.ownerships) (hs' : st'.view.ownerships = s'.ownerships)
    {t t' : Transaction} (ht : t.id = s.newId) (ht' : t'.id = s'.newId) :
    Both f (Except.map (renamed (s.renumber s'))) (entitle A item t) (entitle A item t')
      (fun _ => Twin (Store.SameFor A (s.renumber s'))) st st' := by
  have hgrant := both_grant hf hst hp hp' hs hs' item.id
  rw [← ht, ← ht'] at hgrant
  have hleft : Both f id
      (do
        let _ ← Registry.grant A item.id t.id
        let remaining ← Credits.balance A
        exec .commit
        return remaining)
      (do
        let _ ← Registry.grant A item.id t'.id
        let remaining ← Credits.balance A
        exec .commit
        return remaining)
      (fun _ => Twin (Store.SameFor A (s.renumber s'))) st st' := by
    refine both_bind (hgrant.mono ?_)
    rintro (e | own) st₁ st₁' hst₁
    · exact hst₁
    -- from here on nothing depends on the ids
    dsimp only [Proceed]
    refine both_bind ((readsAlike_balance.both hf hst₁).mono ?_)
    rintro (e | held) st₂ st₂' hst₂
    · exact hst₂
    dsimp only [Proceed]
    refine both_bind ((both_plain (q := .commit) hf hst₂ fun _ => rfl).mono ?_)
    rintro (e | _) st₃ st₃' hst₃
    · exact hst₃
    · exact ⟨rfl, hst₃⟩
  refine both_bind (both_attempt (hleft.mono ?_))
  rintro (e | held) st₁ st₁' hst₁
  · exact ⟨rfl, hst₁⟩
  · refine ⟨?_, hst₁⟩
    show Except.ok (Except.ok (Outcome.committed item.id t'.id held)) =
      Except.ok (Except.ok (Outcome.committed item.id ((s.renumber s').transaction t.id) held))
    rw [ht, ht', Store.renumber_newId]

theorem both_shortfall : Both f (Except.map (renamed (s.renumber s'))) (shortfall A item)
    (shortfall A item) (fun _ => Twin (Store.SameFor A (s.renumber s'))) st st' := by
  have hfound : Both f id (do exec .rollback; Credits.balance A : Script Int)
      (do exec .rollback; Credits.balance A)
      (fun _ => Twin (Store.SameFor A (s.renumber s'))) st st' := by
    refine both_bind ((both_plain (q := .rollback) hf hst fun _ => rfl).mono ?_)
    rintro (e | _) st₁ st₁' hst₁
    · exact hst₁
    · exact readsAlike_balance.both hf hst₁
  refine both_bind (both_attempt (hfound.mono ?_))
  rintro (e | held) st₁ st₁' hst₁
  · exact ⟨rfl, hst₁⟩
  · exact ⟨rfl, hst₁⟩

/-- The writes of two purchases correspond as long as neither store has recorded anything. -/
theorem both_write (hp : s.HasPayments) (hp' : s'.HasPayments) (hs : st.Unrecorded s)
    (hs' : st'.Unrecorded s') :
    Both f (Except.map (renamed (s.renumber s'))) (write now A item) (write now A item)
      (fun _ => Twin (Store.SameFor A (s.renumber s'))) st st' := by
  have hdeduct := (both_deduct hf hst (.whole item.price)).and_ends
    ((recordsNothing_deduct A _).ends hs) ((recordsNothing_deduct A _).ends hs')
  refine both_bind (both_attempt (hdeduct.mono ?_))
  rintro (e | done) st₁ st₁' ⟨hst₁, hs₁, hs₁'⟩
  · exact ⟨rfl, hst₁⟩
  cases done with
  | false => exact both_shortfall hf hst₁
  | true =>
      have hrow : (Journal.purchaseDraft A item.id item.price .completed none now).account = A :=
        rfl
      have happend := (both_append hf hst₁ hs₁ hs₁' hrow).and_ends (ends_append hs₁ _)
        (ends_append hs₁' _)
      -- neither the debit nor its failure has recorded anything, so the ids are not used up
      dsimp only [Proceed, Except.map, id]
      refine both_bind (both_attempt (happend.mono ?_))
      rintro (e | t) st₂ st₂' ⟨hst₂, ⟨-, hown, hid⟩, -, hown', hid'⟩
      · exact ⟨rfl, hst₂⟩
      · refine both_entitle hf hst₂ hp hp' hown hown' ?_ ?_
        · rw [hid t rfl]
          rfl
        · rw [hid' _ rfl]
          rfl

/-- What was recorded is undone on both sides, so the next ids are free again. -/
theorem both_compensate (hs : st.committed = s) (hs' : st'.committed = s') :
    Both f id compensate compensate (fun r st st' =>
      Twin (Store.SameFor A (s.renumber s')) st st' ∧
        ∀ u, r = .ok u → st.Unrecorded s ∧ st'.Unrecorded s') st st' := by
  have hboth : Both f id compensate compensate
      (fun _ => Twin (Store.SameFor A (s.renumber s'))) st st' := by
    refine both_bind (both_attempt ((both_plain (q := .rollback) hf hst fun _ => rfl).mono ?_))
    rintro (e | _) st₁ st₁' hst₁
    · dsimp only [Proceed, Except.map]
      split
      · exact both_plain (q := .invalidate) hf hst₁ fun _ => rfl
      · exact ⟨rfl, hst₁⟩
    · exact ⟨rfl, hst₁⟩
  refine (hboth.and_ends (ends_compensate hs) (ends_compensate hs')).mono ?_
  rintro r st₁ st₁' ⟨hst₁, ⟨-, hdone⟩, -, hdone'⟩
  refine ⟨hst₁, fun u hu => ⟨hdone u hu, hdone' u ?_⟩⟩
  rw [hu]
  rfl

/-- Nothing has been recorded before the note, so the notes get the next ids. -/
theorem both_giveUp (hs : st.Unrecorded s) (hs' : st'.Unrecorded s') (stage : Stage)
    (e : Failure) :
    Both f (renamed (s.renumber s')) (giveUp now A item stage e) (giveUp now A item stage e)
      (fun _ => Twin (Store.SameFor A (s.renumber s'))) st st' := by
  have hrow : (Journal.purchaseDraft A item.id item.price .failed
      (some (failureNote stage e)) now).account = A := rfl
  have hnoted : Both f id
      (do
        let _ ← Journal.appendPurchase A item.id item.price .failed
          (some (failureNote stage e)) now
        exec .commit : Script Unit)
      (do
        let _ ← Journal.appendPurchase A item.id item.price .failed
          (some (failureNote stage e)) now
        exec .commit)
      (fun _ => Twin (Store.SameFor A (s.renumber s'))) st st' := by
    refine both_bind ((both_append hf hst hs hs' hrow).mono ?_)
    rintro (e' | t) st₁ st₁' hst₁
    · exact hst₁
    · exact both_plain (q := .commit) hf hst₁ fun _ => rfl
  refine both_bind (both_attempt (hnoted.mono ?_))
  rintro (e' | _) st₁ st₁' hst₁
  · dsimp only [Proceed, Except.map]
    split
    · exact ⟨rfl, hst₁⟩
    · refine both_bind ((both_plain (q := .rollback) hf hst₁ fun _ => rfl).mono ?_)
      rintro (e'' | _) st₂ st₂' hst₂
      · exact hst₂
      · exact ⟨rfl, hst₂⟩
  · exact ⟨rfl, hst₁⟩

theorem both_recover (hs : st.committed = s) (hs' : st'.committed = s') (stage : Stage)
    (e : Failure) :
    Both f (renamed (s.renumber s')) (recover now A item stage e) (recover now A item stage e)
      (fun _ => Twin (Store.SameFor A (s.renumber s'))) st st' := by
  unfold recover
  split
  · exact ⟨rfl, hst⟩
  · refine both_bind ((both_compensate hf hst hs hs').mono ?_)
    rintro (e' | _) st₁ st₁' ⟨hst₁, hdone⟩
    · exact hst₁
    · -- what was recorded is undone, so the note gets the same ids as the purchase had
      obtain ⟨hs₁, hs₁'⟩ := hdone () rfl
      dsimp only [Proceed]
      split
      · exact ⟨rfl, hst₁⟩
      · exact both_giveUp hf hst₁ hs₁ hs₁' stage e

end

/-! ### What writes that fail have committed -/

theorem recordsNothing_shortfall (account : Int) (item : Item) :
    (shortfall account item).RecordsNothing := by
  refine asks_bind (asks_attempt (asks_bind (asks_exec rfl)
    fun _ => Credits.asks_balance rfl)) fun found => ?_
  cases found <;> exact asks_done _

/-- An ownership that fails has committed nothing. -/
theorem ends_entitle (account : Int) (t : Transaction) :
    Ends (.failing f) (entitle account item t) (fun r st' =>
      ∀ x, r = .ok (.error x) → st'.committed = st.committed) st := by
  have hleft : Ends (.failing f)
      (do
        let _ ← Registry.grant account item.id t.id
        let remaining ← Credits.balance account
        exec .commit
        return remaining)
      (fun r st' => ∀ e, r = .error e → st'.committed = st.committed) st := by
    have hgrant : (Registry.grant account item.id t.id).NeverCommits := asks_exec (by simp)
    refine ends_bind (hgrant.ends.mono ?_)
    rintro (e | own) st₁ hst₁
    · exact fun _ _ => hst₁
    dsimp only [GoesOn]
    have hbalance : (Credits.balance account).NeverCommits := Credits.asks_balance (by simp)
    refine ends_bind (hbalance.ends.mono ?_)
    rintro (e | held) st₂ hst₂
    · exact fun _ _ => hst₂.trans hst₁
    dsimp only [GoesOn]
    refine ends_bind ((ends_commit st₂).mono ?_)
    rintro (e | _) st₃ hst₃
    · exact fun _ _ => (hst₃ e rfl).trans (hst₂.trans hst₁)
    · exact fun _ h => (by cases h)
  refine ends_bind (ends_attempt (hleft.mono ?_))
  rintro (e | held) st₁ hst₁
  · exact fun _ _ => hst₁ e rfl
  · exact fun _ h => (by cases h)

/-- Writes that fail have committed nothing. -/
theorem ends_write (account : Int) : Ends (.failing f) (write now account item) (fun r st' =>
    ∀ x, r = .ok (.error x) → st'.committed = st.committed) st := by
  refine ends_bind (ends_attempt ((recordsNothing_deduct account _).neverCommits.ends.mono ?_))
  rintro (e | done) st₁ hst₁
  · exact fun _ _ => hst₁
  dsimp only [GoesOn]
  cases done with
  | false =>
      refine ((recordsNothing_shortfall account item).neverCommits.ends.mono ?_)
      exact fun _ st₂ hst₂ _ _ => hst₂.trans hst₁
  | true =>
      have happend : (Journal.appendPurchase account item.id item.price .completed none
          now).NeverCommits := asks_exec (by simp)
      refine ends_bind (ends_attempt (happend.ends.mono ?_))
      rintro (e | t) st₂ hst₂
      · exact fun _ _ => hst₂.trans hst₁
      · exact (ends_entitle account t).mono fun _ st₃ hst₃ x hx =>
          (hst₃ x hx).trans (hst₂.trans hst₁)

/-! ### The whole -/

variable (hf : f.Blind) (hst : st.Twin (Store.SameFor A (s.renumber s')) st')

include hf hst

/-- Both purchases read the same of the account and of the catalog, so they take the same turns. -/
theorem both_buy (hp : s.HasPayments) (hp' : s'.HasPayments) (hs : st.Fresh f s)
    (hs' : st'.Fresh f s') (id : Int) :
    Both f (renamed (s.renumber s')) (buy now A id) (buy now A id)
      (fun _ => Twin (Store.SameFor A (s.renumber s'))) st st' := by
  refine both_bind ((((readsAlike_item id).both hf hst).and_ends
    ((reads_exec rfl).ends_fresh hs) ((reads_exec rfl).ends_fresh hs')).mono ?_)
  rintro (e | found) st₁ st₁' ⟨hst₁, hs₁, hs₁'⟩
  · exact hst₁
  dsimp only [Proceed]
  have hreads : (Credits.lockBalance A).Reads := Credits.asks_lockBalance rfl
  refine both_bind (((readsAlike_lockBalance.both hf hst₁).and_ends (hreads.ends_fresh hs₁)
    (hreads.ends_fresh hs₁')).mono ?_)
  rintro (e | balance) st₂ st₂' ⟨hst₂, hs₂, hs₂'⟩
  · exact hst₂
  dsimp only [Proceed]
  refine both_bind ((((readsAlike_owns id).both hf hst₂).and_ends
    ((reads_exec rfl).ends_fresh hs₂) ((reads_exec rfl).ends_fresh hs₂')).mono ?_)
  rintro (e | owned) st₃ st₃' ⟨hst₃, hs₃, hs₃'⟩
  · exact hst₃
  simp only [Proceed, id_eq]
  split
  · refine both_bind ((both_plain (q := .rollback) hf hst₃ fun _ => rfl).mono ?_)
    rintro (e | _) st₄ st₄' hst₄
    · exact hst₄
    · exact ⟨rfl, hst₄⟩
  · rename_i item hitem
    have hwrite : Both f _ (write now A item) (write now A item) _ _ _ :=
      both_write hf hst₃ hp hp' (unrecorded_of_pending hs₃.store hs₃.pending)
        (unrecorded_of_pending hs₃'.store hs₃'.pending)
    refine both_bind ((hwrite.and_ends (ends_write A) (ends_write A)).mono ?_)
    rintro (e | ⟨stage, e⟩ | outcome) st₄ st₄' ⟨hst₄, hfailed, hfailed'⟩
    · exact hst₄
    · -- writes that fail have committed nothing, so the stores are still those of the beginning
      dsimp only [Proceed, Except.map]
      exact both_recover hf hst₄ ((hfailed _ rfl).trans hs₃.store)
        ((hfailed' _ rfl).trans hs₃'.store) stage e
    · exact ⟨rfl, hst₄⟩

/-- A purchase in a unit of work of its own. -/
theorem both_purchase (hp : s.HasPayments) (hp' : s'.HasPayments) (hs : st.Fresh f s)
    (hs' : st'.Fresh f s') (id : Int) :
    Both f (renamed (s.renumber s')) (purchase now A id) (purchase now A id)
      (fun _ => Twin (Store.SameFor A (s.renumber s'))) st st' :=
  both_unitOfWork hf hst hs hs' fun _ _ hst₁ hs₁ hs₁' => both_buy hf hst₁ hp hp' hs₁ hs₁' id

end Checkout

end Scrip
