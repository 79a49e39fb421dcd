import Scrip.Proofs.Service.Operation
import Scrip.Work.Crew
set_option autoImplicit false

/-! # A crew at work

However the statements of several operations interleave, what is committed is one deed after
another. The invariant is that every job under way is safe where its session stands, and that no
two jobs have closed the same row. A commit of one job then is to every other job just what other
sessions may do: it makes the store grow and leaves the rows alone that this job has closed.
-/

namespace Scrip

/-! ## Rows that are not written -/

namespace Store

theorem notMem_closedRows {w : Write} {ws : List Write} {row : RowKey}
    (h : row ∉ closedRows (w :: ws)) : w.row? ≠ some row ∧ row ∉ closedRows ws := by
  simp only [mem_closedRows, List.mem_cons, exists_eq_or_imp, not_or] at h
  exact ⟨h.1, mem_closedRows.not.mpr h.2⟩

theorem balance?_of_notMem {ws : List Write} {account : Int}
    (h : RowKey.account account ∉ closedRows ws) (s : Store) :
    (s.applyAll ws).balance? account = s.balance? account := by
  induction ws generalizing s with
  | nil => rfl
  | cons w ws ih =>
      obtain ⟨hw, hrest⟩ := notMem_closedRows h
      rw [applyAll_cons, ih hrest]
      cases w with
      | balance a change =>
          refine balance?_changeBalance_of_ne s change ?_
          rintro rfl
          exact hw rfl
      | append row => rfl
      | own row => rfl
      | status id status time => rfl

/-- A row that is open stays as it is. -/
theorem transaction?_of_notMem {ws : List Write} {id : Int}
    (h : RowKey.transaction id ∉ closedRows ws) {s : Store} {t : Transaction}
    (ht : s.transaction? id = some t) : (s.applyAll ws).transaction? id = some t := by
  induction ws generalizing s with
  | nil => exact ht
  | cons w ws ih =>
      obtain ⟨hw, hrest⟩ := notMem_closedRows h
      rw [applyAll_cons]
      refine ih hrest ?_
      cases w with
      | balance a change => exact ht
      | own row => exact ht
      | append row => exact transaction?_append_of_some row ht
      | status i status time =>
          have hne : t.id ≠ i := by
            rw [id_of_transaction? ht]
            rintro rfl
            exact hw rfl
          rw [transaction?_status, ht, Option.map_some, restate, if_neg hne]

end Store

/-- A deed is what other sessions may do while the rows that it changes are not closed. -/
theorem Deed.others {s : Store} {w pending : List Write} (h : Deed s w) (hl : s.Lawful)
    (hfree : ∀ row ∈ closedRows pending, row ∉ closedRows w) : Others pending s (s.applyAll w) where
  grows := h.grows hl
  account := fun _ ha => Store.balance?_of_notMem (hfree _ ha) s
  transaction := fun _ _ hid ht => Store.transaction?_of_notMem (hfree _ hid) ht

namespace Crew

/-- The invariant of a crew at work. -/
structure Sound (c : Crew) : Prop where
  lawful : c.store.Lawful
  log : ∃ ds, ds.map Prod.snd = c.log ∧ Deeds c.origin ds c.store
  jobs : ∀ (i : Nat) (job : Job), c.jobs[i]? = some job → ∃ ds,
    Script.Safe (fun _ _ => True) job.left (fun _ _ => True) ⟨c.store, job.pending, ds⟩
  apart : ∀ (i j : Nat) (job other : Job), j ≠ i → c.jobs[i]? = some job →
    c.jobs[j]? = some other → ∀ row ∈ closedRows job.pending, row ∉ closedRows other.pending

variable {c c' : Crew}

theorem sound_idle {origin : Store} (hl : origin.Lawful) : (idle origin).Sound where
  lawful := hl
  log := ⟨[], rfl, Deeds.none origin⟩
  jobs := fun i job h => by cases h
  apart := fun i j job other _ h => by cases h

/-! ## An operation begins -/

theorem job_of_append {jobs : List Job} {new job : Job} {i : Nat}
    (h : (jobs ++ [new])[i]? = some job) : jobs[i]? = some job ∨ job = new := by
  rw [List.getElem?_append] at h
  split at h
  · exact Or.inl h
  · exact Or.inr (List.mem_singleton.mp (List.mem_of_getElem? h))

/-- The invariant outlasts the beginning of an operation. -/
theorem sound_begin (h : c.Sound) (settings : Settings) (now : Moment) {op : Operation}
    (offered : op.isOffered = true) :
    Sound { c with jobs := c.jobs ++ [⟨op.whole settings now, []⟩] } where
  lawful := h.lawful
  log := h.log
  jobs := by
    intro i job hjob
    rcases job_of_append hjob with hjob | rfl
    · exact h.jobs i job hjob
    · exact ⟨[], Operation.safe_whole settings now offered c.store⟩
  apart := by
    intro i j job other hij hjob hother row hrow
    rcases job_of_append hjob with hjob | rfl
    · rcases job_of_append hother with hother | rfl
      · exact h.apart i j job other hij hjob hother row hrow
      · exact List.not_mem_nil
    · cases hrow

/-! ## A statement gets its reply -/

theorem job_of_set {jobs : List Job} {new job : Job} {i j : Nat}
    (h : (jobs.set i new)[j]? = some job) :
    (j = i ∧ job = new) ∨ (j ≠ i ∧ jobs[j]? = some job) := by
  by_cases hij : i = j
  · subst hij
    rw [List.getElem?_set_self'] at h
    cases hi : jobs[i]? with
    | none => rw [hi] at h; cases h
    | some old =>
        rw [hi] at h
        exact Or.inl ⟨rfl, (Option.some.inj h).symm⟩
  · rw [List.getElem?_set_ne hij] at h
    exact Or.inr ⟨fun hji => hij hji.symm, h⟩

/-- The rows of the job that has moved are free, so no two jobs have closed the same row. -/
theorem apart_move (h : c.Sound) {i : Nat} {pending after : List Write} {committed : Bool}
    {left : Script Answer}
    (free : ∀ (j : Nat) (other : Job), j ≠ i → c.jobs[j]? = some other →
      ∀ row ∈ closedRows after, row ∉ closedRows other.pending)
    (j k : Nat) (job other : Job) (hjk : k ≠ j)
    (hjob : (c.move i pending committed ⟨left, after⟩).jobs[j]? = some job)
    (hother : (c.move i pending committed ⟨left, after⟩).jobs[k]? = some other) :
    ∀ row ∈ closedRows job.pending, row ∉ closedRows other.pending := by
  intro row hrow hrow'
  rcases job_of_set hjob with ⟨rfl, rfl⟩ | ⟨hj, hjob⟩
  · rcases job_of_set hother with ⟨hk, -⟩ | ⟨hk, hother⟩
    · exact hjk hk
    · exact free k other hk hother row hrow hrow'
  · rcases job_of_set hother with ⟨-, rfl⟩ | ⟨-, hother⟩
    · exact free j job hj hjob row hrow' hrow
    · exact h.apart j k job other hjk hjob hother row hrow hrow'

theorem store_move (i : Nat) (pending : List Write) (committed : Bool) (job : Job) :
    (c.move i pending committed job).store =
      if committed then c.store.applyAll pending else c.store := by
  cases committed with
  | true => simp [move, store, List.foldl_append]
  | false => rfl

/-- The invariant outlasts the reply to a statement: other jobs keep their rows, since they are
closed to the job that moves. -/
theorem sound_reply (h : c.Sound) {i : Nat} {q : Statement}
    {next : Except Failure q.Reply → Script Answer} {pending after : List Write}
    {reply : Except Failure q.Reply} (job : c.jobs[i]? = some ⟨.ask q next, pending⟩)
    (does : q.Does (fun _ _ => True) c.store pending reply after)
    (free : ∀ (j : Nat) (other : Job), j ≠ i → c.jobs[j]? = some other →
      ∀ row ∈ closedRows after, row ∉ closedRows other.pending)
    (lawful : q.committed reply = true → (c.store.applyAll pending).Lawful) :
    (c.move i pending (q.committed reply) ⟨next reply, after⟩).Sound := by
  obtain ⟨ds, hsafe⟩ := h.jobs i _ job
  obtain ⟨hdeed, hnext⟩ := hsafe c.store (Others.refl _ _) reply after does
  have hstore := c.store_move i pending (q.committed reply) ⟨next reply, after⟩
  cases hcommitted : q.committed reply with
  | false =>
      -- the committed store stays, and no other job has changed
      rw [hcommitted] at hnext hstore
      refine ⟨h.lawful, h.log, ?_, apart_move h free⟩
      intro j other hother
      rcases job_of_set hother with ⟨rfl, rfl⟩ | ⟨-, hother⟩
      · exact ⟨ds, hnext⟩
      · exact h.jobs j other hother
  | true =>
      -- a deed for the log, and what other sessions may do for all other jobs
      rw [hcommitted] at hnext hstore
      replace hstore : (c.move i pending true ⟨next reply, after⟩).store =
        c.store.applyAll pending := hstore
      obtain ⟨rfl, rfl⟩ := Statement.does_committed does hcommitted
      refine ⟨?_, ?_, ?_, apart_move h free⟩
      · rw [hstore]
        exact lawful hcommitted
      · obtain ⟨done, hlog, hdeeds⟩ := h.log
        refine ⟨done ++ [(c.store, pending)], ?_, ?_⟩
        · rw [List.map_append, hlog]
          rfl
        · rw [hstore]
          exact hdeeds.last (hdeed hcommitted) (Statement.Fits.of_lawful (lawful hcommitted))
      · intro j other hother
        rw [hstore]
        rcases job_of_set hother with ⟨rfl, rfl⟩ | ⟨hj, hother⟩
        · exact ⟨_, hnext⟩
        · obtain ⟨ds', hsafe'⟩ := h.jobs j other hother
          have hothers : Others other.pending c.store (c.store.applyAll pending) :=
            (hdeed hcommitted).others h.lawful (h.apart j i other _ hj.symm hother job)
          exact ⟨ds', hsafe'.on hothers fun _ _ => trivial⟩

/-! ## Any number of steps -/

theorem sound_step (h : c.Sound) (step : Step c c') : c'.Sound := by
  cases step with
  | begin settings now op offered => exact sound_begin h settings now offered
  | reply job does free lawful => exact sound_reply h job does free lawful

theorem origin_step (step : Step c c') : c'.origin = c.origin := by
  cases step <;> rfl

theorem sound_reaches {origin : Store} (hl : origin.Lawful) (h : Reaches (idle origin) c) :
    c.Sound ∧ c.origin = origin := by
  induction h with
  | refl => exact ⟨sound_idle hl, rfl⟩
  | next run step ih =>
      obtain ⟨hsound, horigin⟩ := ih
      exact ⟨sound_step hsound step, (origin_step step).trans horigin⟩

/-! ## Turns -/

theorem isFree_iff {i : Nat} {ws : List Write} : c.isFree i ws = true ↔
    ∀ (j : Nat) (other : Job), j ≠ i → c.jobs[j]? = some other →
      ∀ row ∈ closedRows ws, row ∉ closedRows other.pending := by
  simp only [isFree, List.all_eq_true, Bool.or_eq_true, beq_iff_eq, Bool.not_eq_true',
    List.contains_eq_mem, decide_eq_false_iff_not, Prod.forall, List.mem_zipIdx_iff_getElem?]
  constructor
  · intro h j other hj hother row hrow
    exact (h other j hother).resolve_left hj row hrow
  · intro h other j hother
    by_cases hj : j = i
    · exact Or.inl hj
    · exact Or.inr (h j other hj hother)

theorem step_of_turn? {i : Nat} (h : c.turn? i = some c') : Step c c' := by
  unfold turn? at h
  split at h
  · rename_i q next pending hjob
    dsimp only at h
    split at h
    · rename_i hok
      obtain rfl := Option.some.inj h
      exact Step.reply hjob (Statement.does_respond c.store pending q) (isFree_iff.mp hok.1) hok.2
    · cases h
  · cases h

theorem reaches_of_turns? {origin : Crew} (h : Reaches origin c) {order : List Nat}
    (hturns : c.turns? order = some c') : Reaches origin c' := by
  induction order generalizing c with
  | nil =>
      obtain rfl := Option.some.inj hturns
      exact h
  | cons i order ih =>
      rw [turns?, List.foldlM_cons] at hturns
      obtain ⟨c₁, hturn, hrest⟩ := Option.bind_eq_some_iff.mp hturns
      exact ih (h.next (step_of_turn? hturn)) hrest

end Crew

end Scrip
