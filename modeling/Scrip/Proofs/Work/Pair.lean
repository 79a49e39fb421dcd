import Scrip.Proofs.Work.Lockstep
import Scrip.Work.Faults
import Scrip.Work.Script
set_option autoImplicit false

/-! # Two runs side by side

Two scripts run on two stores that stand in some relation, as one account sees two stores that
differ in what belongs to others. `Script.Both` says that the results are the same up to a change
of what they carry. Both runs meet the same faults (`Faults.Blind`), so they fail at the same
statements, and the relation of the stores passes from statement to statement (`Session.Twin`).
-/

namespace Scrip

/-! ## Statements -/

/-- Two statements that ask for the same, though they may say of an ownership that different
transactions have paid for it. -/
inductive Statement.Alike : Statement → Statement → Prop where
  | refl (q : Statement) : Alike q q
  | grant (account item transaction transaction' : Int) :
      Alike (.grant account item transaction) (.grant account item transaction')

theorem Statement.congruent_alike : Congruent Alike where
  commit_iff := fun h => by cases h <;> simp
  close_iff := fun h => by cases h <;> simp
  endsWork_eq := fun h => by cases h <;> rfl

/-- The faults do not depend on which transactions have paid for ownerships. -/
structure Faults.Blind (f : Faults) : Prop where
  early : ∀ {before before' q q'}, List.Forall₂ Statement.Alike before before' → q.Alike q' →
    f.early before' q' = f.early before q
  late : ∀ {before before' q q'}, List.Forall₂ Statement.Alike before before' → q.Alike q' →
    f.late before' q' = f.late before q

theorem Faults.Blind.correspond {f : Faults} (hf : f.Blind) :
    Correspond Statement.Alike Eq f f := by
  have hrel : ∀ {x x' : Option Failure}, x' = x → Option.Rel Eq x x' := by
    intro x x' h
    subst h
    cases x' with
    | none => exact .none
    | some e => exact .some rfl
  exact ⟨fun h hq => hrel (hf.early h hq), fun h hq => hrel (hf.late h hq)⟩

theorem Statement.contains_of_alike {before before' : List Statement}
    (h : List.Forall₂ Statement.Alike before before') {q : Statement}
    (hq : q = .commit ∨ q = .rollback) : before'.contains q = before.contains q := by
  induction h with
  | nil => rfl
  | cons hhead _ ih =>
      rw [List.contains_cons, List.contains_cons, ih]
      cases hhead with
      | refl q' => rfl
      | grant account item transaction transaction' => rcases hq with rfl | rfl <;> rfl

theorem FaultSite.strikes_of_alike (site : FaultSite) {before before' : List Statement}
    {q q' : Statement} (h : List.Forall₂ Statement.Alike before before') (hq : q.Alike q') :
    site.strikes before' q' = site.strikes before q := by
  have hcommit := Statement.contains_of_alike h (Or.inl rfl)
  have hrollback := Statement.contains_of_alike h (Or.inr rfl)
  cases hq with
  | refl q => simp only [strikes, hcommit, hrollback]
  | grant account item transaction transaction' => cases site <;> rfl

/-- Faults by name depend on the kinds of the statements only. -/
theorem Faults.blind_named (early late : List Fault) :
    Faults.Blind
      { early := (Conditions.ofFaults early []).fault
        late := (Conditions.ofFaults late []).fault } where
  early := fun h hq => by
    simp only [Conditions.ofFaults, FaultSite.strikes_of_alike _ h hq]
  late := fun h hq => by
    simp only [Conditions.ofFaults, FaultSite.strikes_of_alike _ h hq]

/-- Two statements succeed on two stores with replies that correspond, and their writes keep the
relation of the stores; or they fail in the same way. -/
def Statement.Agree (R : Store → Store → Prop) {q q' : Statement} (g : q.Reply → q'.Reply)
    (v v' : Store) : Prop :=
  match q.answer v, q'.answer v' with
  | .ok (reply, ws), .ok (reply', ws') => reply' = g reply ∧ R (v.applyAll ws) (v'.applyAll ws')
  | .error e, .error e' => e' = e
  | _, _ => False

namespace Statement

variable {R : Store → Store → Prop} {q q' : Statement} {g : q.Reply → q'.Reply} {v v' : Store}

theorem agree_ok {reply : q.Reply} {reply' : q'.Reply} {ws ws' : List Write}
    (h : q.answer v = .ok (reply, ws)) (h' : q'.answer v' = .ok (reply', ws'))
    (hreply : reply' = g reply) (hws : R (v.applyAll ws) (v'.applyAll ws')) : Agree R g v v' := by
  rw [Agree, h, h']
  exact ⟨hreply, hws⟩

theorem agree_error {e : Failure} (h : q.answer v = .error e) (h' : q'.answer v' = .error e) :
    Agree R g v v' := by
  rw [Agree, h, h']

theorem Agree.paired (h : Agree R g v v') :
    Paired Eq (fun a a' => a'.1 = g a.1 ∧ R (v.applyAll a.2) (v'.applyAll a'.2)) (q.answer v)
      (q'.answer v') := by
  unfold Agree at h
  split at h
  · rename_i hr hr'
    rw [hr, hr']
    exact .ok h
  · rename_i hr hr'
    rw [hr, hr']
    exact .error h.symm
  · exact h.elim

end Statement

/-! ## Sessions -/

namespace Session

variable {R : Store → Store → Prop} {f : Faults} {st st' : Session} {q q' : Statement}

/-- Two sessions have asked for the same, and what they have committed stands in a relation, as
does what they see. -/
structure Twin (R : Store → Store → Prop) (st st' : Session) : Prop where
  trace : List.Forall₂ Statement.Alike st.trace st'.trace
  committed : R st.committed st'.committed
  view : R st.view st'.view

theorem Twin.mono {R' : Store → Store → Prop} (h : st.Twin R st')
    (hR : ∀ s s', R s s' → R' s s') : st.Twin R' st' :=
  ⟨h.trace, hR _ _ h.committed, hR _ _ h.view⟩

theorem twin_start {s s' : Store} (h : R s s') : (Session.start s).Twin R (Session.start s') :=
  ⟨List.Forall₂.nil, h, h⟩

/-- Two statements that agree have replies that correspond, and leave twins. -/
theorem Twin.execute (hf : f.Blind) (h : st.Twin R st') (hq : q.Alike q')
    {g : q.Reply → q'.Reply} (ha : Statement.Agree R g st.view st'.view) :
    (st'.execute (.failing f) q').1 = (st.execute (.failing f) q).1.map g ∧
      (st.execute (.failing f) q).2.Twin R (st'.execute (.failing f) q').2 := by
  have hstep : st.Lockstep Statement.Alike R st' := ⟨h.trace, h.committed, h.view⟩
  obtain ⟨hreply, hst⟩ := hstep.execute (S := fun reply reply' => reply' = g reply)
    Statement.congruent_alike hq hf.correspond ha.paired
  exact ⟨hreply.eq_map, hst.trace, hst.committed, hst.view⟩

end Session

/-! ## Scripts -/

namespace Script

open Session

variable {α α' β β' : Type} {R : Store → Store → Prop} {f : Faults} {st st' : Session}

/-- The results of two runs are the same up to a change `g` of what they carry, and the sessions at
their ends satisfy a postcondition, which may depend on the first result. -/
def Both (f : Faults) (g : α → α') (p : Script α) (p' : Script α')
    (J : Except Failure α → Session → Session → Prop) (st st' : Session) : Prop :=
  (p'.run (.failing f) st').1 = (p.run (.failing f) st).1.map g ∧
    J (p.run (.failing f) st).1 (p.run (.failing f) st).2 (p'.run (.failing f) st').2

variable {g : α → α'} {h : β → β'} {p : Script α} {p' : Script α'}
  {J J' : Except Failure α → Session → Session → Prop}
  {K : Except Failure β → Session → Session → Prop}

theorem Both.mono (hp : Both f g p p' J st st') (hJ : ∀ r st st', J r st st' → J' r st st') :
    Both f g p p' J' st st' :=
  ⟨hp.1, hJ _ _ _ hp.2⟩

/-- What each of two runs establishes by itself. -/
theorem Both.and_ends {I : Except Failure α → Session → Prop}
    {I' : Except Failure α' → Session → Prop}
    (hp : Both f g p p' J st st') (hI : Ends (.failing f) p I st)
    (hI' : Ends (.failing f) p' I' st') :
    Both f g p p' (fun r st st' => J r st st' ∧ I r st ∧ I' (r.map g) st') st st' := by
  refine ⟨hp.1, hp.2, hI, ?_⟩
  rw [← hp.1]
  exact hI'

theorem both_done {r : Except Failure α} {r' : Except Failure α'} (hr : r' = r.map g)
    (hJ : J r st st') : Both f g (done r) (done r') J st st' :=
  ⟨hr, hJ⟩

/-- The postcondition of the first parts of two scripts that go on with their results. -/
def Proceed (f : Faults) (g : α → α') (h : β → β') (k : α → Script β) (k' : α' → Script β')
    (K : Except Failure β → Session → Session → Prop) (r : Except Failure α)
    (st st' : Session) : Prop :=
  match r with
  | .ok a => Both f h (k a) (k' (g a)) K st st'
  | .error e => K (.error e) st st'

theorem both_bind {k : α → Script β} {k' : α' → Script β'}
    (hp : Both f g p p' (Proceed f g h k k' K) st st') :
    Both f h (p >>= k) (p' >>= k') K st st' := by
  obtain ⟨hr, hJ⟩ := hp
  unfold Both
  rw [run_bind, run_bind]
  revert hr hJ
  rcases p.run (.failing f) st with ⟨r, st₁⟩
  rcases p'.run (.failing f) st' with ⟨r', st₁'⟩
  rintro rfl hJ
  cases r with
  | error e => exact ⟨rfl, hJ⟩
  | ok a => exact hJ

theorem both_attempt {K : Except Failure (Except Failure α) → Session → Session → Prop}
    (hp : Both f g p p' (fun r st st' => K (.ok r) st st') st st') :
    Both f (Except.map g) p.attempt p'.attempt K st st' := by
  unfold Both
  rw [run_attempt, run_attempt]
  exact ⟨congrArg Except.ok hp.1, hp.2⟩

theorem both_exec (hf : f.Blind) (hst : st.Twin R st') {q q' : Statement} (hq : q.Alike q')
    {g : q.Reply → q'.Reply} (ha : Statement.Agree R g st.view st'.view) :
    Both f g (exec q) (exec q') (fun _ => Twin R) st st' :=
  hst.execute hf hq ha

/-- A statement that gives the same reply everywhere and writes nothing. -/
theorem both_plain (hf : f.Blind) (hst : st.Twin R st') {q : Statement} {reply : q.Reply}
    (hq : ∀ v, q.answer v = .ok (reply, [])) :
    Both f id (exec q) (exec q) (fun _ => Twin R) st st' := by
  exact both_exec hf hst (.refl q) (Statement.agree_ok (hq _) (hq _) rfl hst.view)

/-! ## Reading -/

/-- The script only reads, and what it reads does not differ between related stores. -/
def ReadsAlike (R : Store → Store → Prop) (p : Script α) : Prop :=
  p.Asks fun q => q.isReading = true ∧ ∀ v v', R v v' → q.answer v' = q.answer v

/-- Of all related stores only two matter to a script that reads. -/
theorem ReadsAlike.between (hp : p.ReadsAlike R) {s s' : Store} (h : R s s') :
    p.ReadsAlike fun v v' => v = s ∧ v' = s' :=
  hp.mono fun q hq => ⟨hq.1, by rintro v v' ⟨rfl, rfl⟩; exact hq.2 _ _ h⟩

/-- Two runs of such a script do not differ. -/
theorem ReadsAlike.both (hf : f.Blind) (hp : p.ReadsAlike R) (hst : st.Twin R st') :
    Both f id p p (fun _ => Twin R) st st' := by
  induction p generalizing st st' with
  | done r => exact both_done (Except.map_id ▸ rfl) hst
  | ask q next ih =>
      obtain ⟨⟨hq, ha⟩, hnext⟩ := hp
      have hagree : Statement.Agree R (id : q.Reply → q.Reply) st.view st'.view := by
        cases hr : q.answer st.view with
        | error e => exact Statement.agree_error hr ((ha _ _ hst.view).trans hr)
        | ok answer =>
            obtain ⟨hws, -⟩ := Statement.yields_of_isReading hq (Statement.yields_of_answer hr)
            refine Statement.agree_ok hr ((ha _ _ hst.view).trans hr) rfl ?_
            rw [hws]
            exact hst.view
      obtain ⟨hreply, htwin⟩ := hst.execute hf (.refl q) hagree
      rw [Except.map_id] at hreply
      have hrest := ih (st.execute (.failing f) q).1 (hnext _) htwin
      refine ⟨?_, ?_⟩
      · show ((next (st'.execute (.failing f) q).1).run (.failing f) _).1 = _
        rw [hreply]
        exact hrest.1
      · show Twin R _ ((next (st'.execute (.failing f) q).1).run (.failing f) _).2
        rw [hreply]
        exact hrest.2

/-- Twins that stand at two stores stand in every relation of these. -/
theorem Both.twin {s s' : Store}
    (hp : Both f g p p' (fun _ => Twin fun v v' => v = s ∧ v' = s') st st') (h : R s s') :
    Both f g p p' (fun _ => Twin R) st st' := by
  refine hp.mono fun _ _ _ hst => hst.mono ?_
  rintro v v' ⟨rfl, rfl⟩
  exact h

/-! ## Units of work -/

section

variable (hf : f.Blind) (hst : st.Twin R st')

include hf hst

theorem both_closeWith (e : Failure) :
    Both f g (closeWith e) (closeWith e) (fun _ => Twin R) st st' := by
  refine both_bind ((both_plain (q := .close) hf hst fun _ => rfl).mono ?_)
  rintro (e' | _) st₁ st₁' hst₁
  · exact hst₁
  · exact ⟨rfl, hst₁⟩

theorem both_abandon (e : Failure) :
    Both f g (abandon e) (abandon e) (fun _ => Twin R) st st' := by
  refine both_bind (both_attempt ((both_plain (q := .rollback) hf hst fun _ => rfl).mono ?_))
  rintro (e' | _) st₁ st₁' hst₁
  · exact both_closeWith hf hst₁ e'
  · exact both_closeWith hf hst₁ e

theorem both_conclude (r : Except Failure α) :
    Both f g (conclude r) (conclude (r.map g)) (fun _ => Twin R) st st' := by
  match r with
  | .ok a =>
      refine both_bind ((both_plain (q := .close) hf hst fun _ => rfl).mono ?_)
      rintro (e | _) st₁ st₁' hst₁
      · exact hst₁
      · exact ⟨rfl, hst₁⟩
  | .error (.refused r) => exact both_abandon hf hst _
  | .error (.storage fault m) => exact both_abandon hf hst _
  | .error (.crash k m) => exact both_closeWith hf hst _

/-- Units of work end as their work does. -/
theorem both_unitOfWork {s s' : Store} (hs : st.Fresh f s) (hs' : st'.Fresh f s')
    (hwork : ∀ st st', st.Twin R st' → st.Fresh f s → st'.Fresh f s' →
      Both f g p p' (fun _ => Twin R) st st') :
    Both f g (unitOfWork p) (unitOfWork p') (fun _ => Twin R) st st' := by
  have hconnect := (both_plain (q := .connect) hf hst fun _ => rfl).and_ends
    ((reads_exec rfl).ends_fresh hs) ((reads_exec rfl).ends_fresh hs')
  refine both_bind (hconnect.mono ?_)
  rintro (e | _) st₁ st₁' ⟨hst₁, hs₁, hs₁'⟩
  · exact hst₁
  · dsimp only [Proceed]
    refine both_bind (both_attempt ((hwork st₁ st₁' hst₁ hs₁ hs₁').mono ?_))
    exact fun r st₂ st₂' hst₂ => both_conclude hf hst₂ r

theorem both_committing {s s' : Store} (hs : st.Fresh f s) (hs' : st'.Fresh f s')
    (hwork : ∀ st st', st.Twin R st' → Both f g p p' (fun _ => Twin R) st st') :
    Both f g (committing p) (committing p') (fun _ => Twin R) st st' := by
  refine both_unitOfWork hf hst hs hs' fun st₁ st₁' hst₁ _ _ => ?_
  refine both_bind ((hwork st₁ st₁' hst₁).mono ?_)
  rintro (e | a) st₂ st₂' hst₂
  · exact hst₂
  · dsimp only [Proceed]
    refine both_bind ((both_plain (q := .commit) hf hst₂ fun _ => rfl).mono ?_)
    rintro (e | _) st₃ st₃' hst₃
    · exact hst₃
    · exact ⟨rfl, hst₃⟩

end

end Script

end Scrip
