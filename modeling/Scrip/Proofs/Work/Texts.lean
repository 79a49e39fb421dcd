import Scrip.Proofs.Store.Notes
import Scrip.Proofs.Work.Lockstep
import Scrip.Work.Faults
import Scrip.Work.Script
set_option autoImplicit false

/-! # Runs that differ in internal texts

The texts of storage faults and of crashes are for internal use, and so are the notes that are made
of them. Two scripts are alike if they ask for the same and go on alike, whatever such texts have
been put in the replies (`Script.Like`). Then two runs of them go in lockstep: the same statements
fail in the same ways, and the stores do not differ but in notes.
-/

namespace Scrip

/-! ## Failures -/

/-- Failures that do not differ but in an internal text, and that are no cancellations. -/
inductive Failure.Akin : Failure → Failure → Prop where
  | refused (r : Refusal) : Akin (.refused r) (.refused r)
  | storage (fault : StorageFault) (m m' : String) : Akin (.storage fault m) (.storage fault m')
  | crash {kind : CrashKind} (h : kind ≠ .cancelled) (m m' : String) :
      Akin (.crash kind m) (.crash kind m')

namespace Failure

variable {e e' : Failure}

theorem akin_self (h : e.isCancellation = false) : e.Akin e := by
  cases e with
  | refused r => exact .refused r
  | storage fault m => exact .storage fault m m
  | crash kind m =>
      refine .crash ?_ m m
      rintro rfl
      cases h

theorem Akin.isCancellation (h : e.Akin e') :
    e.isCancellation = false ∧ e'.isCancellation = false := by
  cases h with
  | refused r => exact ⟨rfl, rfl⟩
  | storage fault m m' => exact ⟨rfl, rfl⟩
  | @crash kind h m m' => cases kind <;> first | exact ⟨rfl, rfl⟩ | exact absurd rfl h

theorem Akin.isStorage (h : e.Akin e') : e'.isStorage = e.isStorage := by
  cases h <;> rfl

theorem Akin.isIntegrity (h : e.Akin e') : e'.isIntegrity = e.isIntegrity := by
  cases h with
  | storage fault m m' => cases fault <;> rfl
  | _ => rfl

end Failure

/-- Results that match: values that stand in a relation, or failures that are akin. -/
abbrev Matches {α α' : Type} (V : α → α' → Prop) :
    Except Failure α → Except Failure α' → Prop :=
  Paired Failure.Akin V

/-! ## Statements -/

namespace Statement

variable {q q' : Statement}

def SameButNotes (q q' : Statement) : Prop := q'.unnoted = q.unnoted

theorem unnoted_eq_commit : q.unnoted = .commit ↔ q = .commit := by
  cases q <;> simp [unnoted]

theorem unnoted_eq_rollback : q.unnoted = .rollback ↔ q = .rollback := by
  cases q <;> simp [unnoted]

theorem unnoted_eq_close : q.unnoted = .close ↔ q = .close := by
  cases q <;> simp [unnoted]

theorem endsWork_unnoted (q : Statement) : q.unnoted.endsWork = q.endsWork := by
  cases q <;> rfl

theorem congruent_sameButNotes : Congruent SameButNotes where
  commit_iff := fun h => by rw [← unnoted_eq_commit, h, unnoted_eq_commit]
  close_iff := fun h => by rw [← unnoted_eq_close, h, unnoted_eq_close]
  endsWork_eq := fun h => by rw [← endsWork_unnoted, h, endsWork_unnoted]

def Same (q : Statement) (reply reply' : q.Reply) : Prop := q.veil reply' = q.veil reply

/-- Answers with replies that stand in a relation, and writes that do not differ but in notes. -/
def Level (S : q.Reply → q'.Reply → Prop) (answer : Except Failure (q.Reply × List Write))
    (answer' : Except Failure (q'.Reply × List Write)) : Prop :=
  Matches (fun a a' => S a.1 a'.1 ∧ a'.2.map Write.unnoted = a.2.map Write.unnoted) answer answer'

variable {s s' : Store}

/-- No statement answers with a cancellation. -/
theorem akin_of_answer {e : Failure} (h : q.answer s = .error e) : e.Akin e := by
  cases q with
  | credit account amount =>
      replace h : answerCredit s account amount = .error e := h
      unfold answerCredit at h
      split at h
      · obtain rfl := Except.error.inj h
        exact .refused _
      · split at h <;> cases h
  | debit account amount =>
      replace h : answerDebit s account amount = .error e := h
      unfold answerDebit at h
      split at h
      · obtain rfl := Except.error.inj h
        exact .refused _
      · split at h
        · cases h
        · split at h <;> cases h
  | grant account item transaction =>
      replace h : answerGrant s account item transaction = .error e := h
      unfold answerGrant at h
      split at h
      · obtain rfl := Except.error.inj h
        exact .storage _ _ _
      · cases h
  | _ => cases h

theorem level_same (h : s.SameButNotes s') (q : Statement) :
    Level q.Same (q.answer s) (q.answer s') := by
  have hanswer := answer_of_sameButNotes h q
  cases ha : q.answer s with
  | error e =>
      cases ha' : q.answer s' with
      | error e' =>
          rw [ha, ha'] at hanswer
          obtain rfl : e' = e := Except.error.inj hanswer
          exact .error (akin_of_answer ha)
      | ok answer' =>
          rw [ha, ha'] at hanswer
          cases hanswer
  | ok answer =>
      cases ha' : q.answer s' with
      | error e' =>
          rw [ha, ha'] at hanswer
          cases hanswer
      | ok answer' =>
          rw [ha, ha'] at hanswer
          obtain ⟨hreply, hws⟩ := Prod.mk.inj (Except.ok.inj hanswer)
          exact .ok ⟨hreply, congrArg _ hws⟩

/-- Rows that are appended with different notes differ in nothing else. -/
theorem level_append (h : s.SameButNotes s') {d d' : Draft} (hd : d'.unnoted = d.unnoted) :
    @Level (.append d) (.append d') (fun t t' : Transaction => t'.unnoted = t.unnoted)
      (answer s (.append d)) (answer s' (.append d')) := by
  have hids : s'.transactions.map (·.id) = s.transactions.map (·.id) := by
    rw [← s'.ids_unnoted, h, s.ids_unnoted]
  have hrow : ∀ id, (d'.row id).unnoted = (d.row id).unnoted := by
    intro id
    have hcongr := congrArg (fun d => Draft.row d id) hd
    exact hcongr
  refine .ok ⟨?_, ?_⟩
  · show (d'.row _).unnoted = (d.row _).unnoted
    rw [hids, hrow]
  · show [Write.append (d'.row _).unnoted] = [Write.append (d.row _).unnoted]
    rw [hids, hrow]

end Statement

/-! ## Sessions -/

/-- Two courses of faults that strike the same statements with failures that are akin. -/
abbrev Faults.Akin (f f' : Faults) : Prop :=
  Faults.Correspond Statement.SameButNotes Failure.Akin f f'

namespace Session

variable {f f' : Faults} {st st' : Session} {q q' : Statement}

/-- Two sessions have asked for the same, and what they have committed and what they see does not
differ but in notes. -/
abbrev Abreast (st st' : Session) : Prop :=
  st.Lockstep Statement.SameButNotes Store.SameButNotes st'

/-- Two statements that answer alike get replies that match, and leave the sessions abreast. -/
theorem Abreast.execute (hf : f.Akin f') (h : st.Abreast st') (hq : q.SameButNotes q')
    {S : q.Reply → q'.Reply → Prop}
    (ha : Statement.Level S (q.answer st.view) (q'.answer st'.view)) :
    Matches S (st.execute (.failing f) q).1 (st'.execute (.failing f') q').1 ∧
      (st.execute (.failing f) q).2.Abreast (st'.execute (.failing f') q').2 := by
  refine Lockstep.execute Statement.congruent_sameButNotes h hq hf (ha.mono ?_)
  rintro a a' ⟨hreply, hws⟩
  exact ⟨hreply, h.view.applyAll hws⟩

end Session

/-! ## Scripts -/

namespace Script

open Session

variable {α β : Type}

/-- Two scripts ask for the same, up to notes, and whatever matching replies they get, they come to
results that stand in the relation `M`. -/
inductive Like (M : Except Failure α → Except Failure α → Prop) : Script α → Script α → Prop where
  | done {r r' : Except Failure α} (h : M r r') : Like M (.done r) (.done r')
  | ask (q : Statement) {next next' : Except Failure q.Reply → Script α}
      (h : ∀ r r', Matches q.Same r r' → Like M (next r) (next' r')) :
      Like M (.ask q next) (.ask q next')
  | append {d d' : Draft} (hd : d'.unnoted = d.unnoted)
      {next next' : Except Failure Transaction → Script α}
      (h : ∀ r r', Matches (fun t t' => t'.unnoted = t.unnoted) r r' →
        Like M (next r) (next' r')) :
      Like M (.ask (.append d) next) (.ask (.append d') next')

variable {M : Except Failure α → Except Failure α → Prop}
  {N : Except Failure β → Except Failure β → Prop} {V : α → α → Prop} {W : β → β → Prop}
  {p p' : Script α}

/-- Alike scripts come to results in their relation, and leave sessions abreast that were so. -/
theorem Like.run {f f' : Faults} (hf : f.Akin f') (h : Like M p p') {st st' : Session}
    (hst : st.Abreast st') :
    M (p.run (.failing f) st).1 (p'.run (.failing f') st').1 ∧
      (p.run (.failing f) st).2.Abreast (p'.run (.failing f') st').2 := by
  induction h generalizing st st' with
  | done h => exact ⟨h, hst⟩
  | ask q h ih =>
      obtain ⟨hreply, hst₁⟩ := Abreast.execute hf hst rfl (Statement.level_same hst.view q)
      exact ih _ _ hreply hst₁
  | @append d d' hd next next' h ih =>
      have hq : (Statement.append d).SameButNotes (.append d') := congrArg Statement.append hd
      obtain ⟨hreply, hst₁⟩ := Abreast.execute hf hst hq (Statement.level_append hst.view hd)
      exact ih _ _ hreply hst₁

theorem Like.mono {M' : Except Failure α → Except Failure α → Prop} (h : Like M p p')
    (hM : ∀ r r', M r r' → M' r r') : Like M' p p' := by
  induction h with
  | done h => exact .done (hM _ _ h)
  | ask q h ih => exact .ask q ih
  | append hd h ih => exact .append hd ih

/-- The relation of the results of two scripts that go on with them. -/
def GoOn (N : Except Failure β → Except Failure β → Prop) (k k' : α → Script β) :
    Except Failure α → Except Failure α → Prop
  | .ok a, .ok a' => Like N (k a) (k' a')
  | .error e, .error e' => N (.error e) (.error e')
  | _, _ => False

theorem like_bind {k k' : α → Script β} (h : Like (GoOn N k k') p p') :
    Like N (p >>= k) (p' >>= k') := by
  induction h with
  | @done r r' h =>
      cases r <;> cases r' <;> first | exact h.elim | exact .done h | exact h
  | ask q h ih => exact .ask q ih
  | append hd h ih => exact .append hd ih

/-- Scripts that go on alike with matching results. -/
theorem like_seq {k k' : α → Script β} (h : Like (Matches V) p p')
    (hk : ∀ a a', V a a' → Like (Matches W) (k a) (k' a')) :
    Like (Matches W) (p >>= k) (p' >>= k') := by
  refine like_bind (h.mono ?_)
  intro r r' hr
  cases hr with
  | ok hV => exact hk _ _ hV
  | error he => exact .error he

/-- The script comes to the same whatever internal texts it meets. -/
def Discreet (p : Script α) : Prop := Like (Matches Eq) p p

/-- Scripts that go on with the same value. -/
theorem like_same {k k' : α → Script β} (h : p.Discreet)
    (hk : ∀ a, Like (Matches W) (k a) (k' a)) : Like (Matches W) (p >>= k) (p >>= k') := by
  refine like_seq h fun a a' heq => ?_
  subst heq
  exact hk a

theorem discreet_bind {k : α → Script β} (h : p.Discreet) (hk : ∀ a, (k a).Discreet) :
    (p >>= k).Discreet :=
  like_same h hk

/-- What is attempted does not fail. -/
theorem like_attempt {k k' : Except Failure α → Script β} (h : Like M p p')
    (hk : ∀ r r', M r r' → Like N (k r) (k' r')) :
    Like N (p.attempt >>= k) (p'.attempt >>= k') := by
  induction h with
  | done h => exact hk _ _ h
  | ask q h ih => exact .ask q ih
  | append hd h ih => exact .append hd ih

theorem like_pure {a a' : α} (h : V a a') : Like (Matches V) (pure a) (pure a') := .done (.ok h)

theorem like_fail {e e' : Failure} (h : e.Akin e') :
    Like (Matches V) (fail e : Script α) (fail e') :=
  .done (.error h)

theorem like_refuse (r : Refusal) : Like (Matches V) (refuse r : Script α) (refuse r) :=
  like_fail (.refused r)

theorem discreet_pure (a : α) : (pure a : Script α).Discreet := like_pure rfl

theorem discreet_refuse (r : Refusal) : (refuse r : Script α).Discreet := like_refuse r

theorem like_exec (q : Statement) : Like (Matches q.Same) (exec q) (exec q) :=
  .ask q fun _ _ h => .done h

/-- A statement whose reply has no notes. -/
theorem discreet_exec {q : Statement} (hq : q.veil = id) : (exec q).Discreet := by
  refine (like_exec q).mono fun r r' hr => hr.mono fun a a' h => ?_
  rw [Statement.Same, hq] at h
  exact h.symm

theorem like_append {d d' : Draft} (hd : d'.unnoted = d.unnoted) :
    Like (Matches fun t t' : Transaction => t'.unnoted = t.unnoted)
      (exec (.append d)) (exec (.append d')) :=
  .append hd fun _ _ h => .done h

/-! ## Units of work -/

theorem like_closeWith {e e' : Failure} (h : e.Akin e') :
    Like (Matches V) (closeWith e : Script α) (closeWith e') :=
  like_seq (like_exec .close) fun _ _ _ => like_fail h

theorem like_abandon {e e' : Failure} (h : e.Akin e') :
    Like (Matches V) (abandon e : Script α) (abandon e') := by
  refine like_attempt (like_exec .rollback) fun r r' hr => ?_
  cases hr with
  | ok _ => exact like_closeWith h
  | error he => exact like_closeWith he

theorem like_conclude {r r' : Except Failure α} (h : Matches V r r') :
    Like (Matches V) (conclude r) (conclude r') := by
  cases h with
  | ok hV => exact like_seq (like_exec .close) fun _ _ _ => like_pure hV
  | error he =>
      cases he with
      | refused r => exact like_abandon (.refused r)
      | storage fault m m' => exact like_abandon (.refused fault.refusal)
      | crash hkind m m' => exact like_closeWith (.crash hkind m m')

theorem like_unitOfWork (h : Like (Matches V) p p') :
    Like (Matches V) (unitOfWork p) (unitOfWork p') :=
  like_seq (like_exec .connect) fun _ _ _ => like_attempt h fun _ _ hr => like_conclude hr

end Script

/-! ## Named faults -/

theorem FaultSite.strikes_unnoted (site : FaultSite) (before : List Statement) (q : Statement) :
    site.strikes (before.map Statement.unnoted) q.unnoted = site.strikes before q := by
  have hcontains : ∀ q' : Statement, (∀ q : Statement, q.unnoted = q' ↔ q = q') →
      (before.map Statement.unnoted).contains q' = before.contains q' := by
    intro q' hq'
    simp [List.contains_eq_mem, hq']
  have hcommit := hcontains .commit fun _ => Statement.unnoted_eq_commit
  have hrollback := hcontains .rollback fun _ => Statement.unnoted_eq_rollback
  cases site <;> cases q <;>
    simp only [strikes, Statement.unnoted, Draft.unnoted, hcommit, hrollback]

theorem FaultSite.strikes_of_sameButNotes (site : FaultSite) {before before' : List Statement}
    {q q' : Statement} (h : List.Forall₂ Statement.SameButNotes before before')
    (hq : q.SameButNotes q') : site.strikes before' q' = site.strikes before q := by
  have hbefore : before'.map Statement.unnoted = before.map Statement.unnoted := by
    induction h with
    | nil => rfl
    | cons hhead _ ih => rw [List.map_cons, List.map_cons, hhead, ih]
  rw [← site.strikes_unnoted before', hbefore, hq, site.strikes_unnoted]

def Fault.Akin (a b : Fault) : Prop := a.site = b.site ∧ a.failure.Akin b.failure

theorem Fault.akin_ofFaults {faults faults' : List Fault}
    (h : List.Forall₂ Fault.Akin faults faults') {before before' : List Statement}
    {q q' : Statement} (hbefore : List.Forall₂ Statement.SameButNotes before before')
    (hq : q.SameButNotes q') :
    Option.Rel Failure.Akin ((Conditions.ofFaults faults []).fault before q)
      ((Conditions.ofFaults faults' []).fault before' q') := by
  simp only [Conditions.ofFaults]
  induction h with
  | nil => exact .none
  | @cons a b as bs hab _ ih =>
      rw [List.find?_cons, List.find?_cons, b.site.strikes_of_sameButNotes hbefore hq, hab.1]
      cases b.site.strikes before q with
      | true => exact .some hab.2
      | false => exact ih

/-- Faults by name are akin if they are so one by one. -/
theorem Faults.akin_named {early early' late late' : List Fault}
    (hearly : List.Forall₂ Fault.Akin early early') (hlate : List.Forall₂ Fault.Akin late late') :
    Faults.Akin
      { early := (Conditions.ofFaults early []).fault, late := (Conditions.ofFaults late []).fault }
      { early := (Conditions.ofFaults early' []).fault,
        late := (Conditions.ofFaults late' []).fault } :=
  ⟨Fault.akin_ofFaults hearly, Fault.akin_ofFaults hlate⟩

end Scrip
