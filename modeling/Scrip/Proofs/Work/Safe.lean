import Scrip.Proofs.Ledger.Deed
import Scrip.Proofs.Work.Statement
set_option autoImplicit false

/-! # Safe scripts

`Script.Safe` says of a script that, wherever its session stands and whatever other sessions do
meanwhile, every commit of it is a deed, and that its end satisfies a postcondition. It is
defined along the script: at each statement the other sessions may first have changed the store
(`Others`), then the database replies (`Statement.Does`).

The other sessions make the store grow and leave the rows alone that this session keeps closed.
That is enough, because a deed of another session is exactly such a change (`Proofs/Work/Crew`),
and it includes that they do nothing (`Proofs/Work/Alone`).
-/

namespace Scrip

/-! ## Other sessions -/

theorem mem_closedRows {ws : List Write} {row : RowKey} :
    row ∈ closedRows ws ↔ ∃ w ∈ ws, w.row? = some row := by
  simp [closedRows, List.mem_filterMap]

/-- What other sessions may make of a store while the rows of some writes are closed to them. -/
structure Others (pending : List Write) (s s' : Store) : Prop where
  grows : s.Grows s'
  account : ∀ a, RowKey.account a ∈ closedRows pending → s'.balance? a = s.balance? a
  transaction : ∀ id t, RowKey.transaction id ∈ closedRows pending →
    s.transaction? id = some t → s'.transaction? id = some t

namespace Others

variable {pending : List Write} {s s' s'' : Store}

theorem refl (pending : List Write) (s : Store) : Others pending s s where
  grows := Store.Grows.refl s
  account := fun _ _ => rfl
  transaction := fun _ _ _ h => h

/-- What others may do while rows are closed to them they may do without that. -/
theorem weaken (h : Others pending s s') : Others [] s s' where
  grows := h.grows
  account := fun _ ha => absurd ha List.not_mem_nil
  transaction := fun _ _ hid => absurd hid List.not_mem_nil

theorem trans (h : Others pending s s') (h' : Others pending s' s'') :
    Others pending s s'' where
  grows := h.grows.trans h'.grows
  account := fun a ha => (h'.account a ha).trans (h.account a ha)
  transaction := fun id t hid ht => h'.transaction id t hid (h.transaction id t hid ht)

end Others

/-! ## Courses -/

/-- Where a session stands: the committed store, its own pending writes, and what it has
committed so far, each time with the store that it was committed to. -/
structure Course where
  store : Store
  pending : List Write := []
  deeds : List (Store × List Write) := []

namespace Course

def fresh (s : Store) : Course := ⟨s, [], []⟩

def on (c : Course) (s : Store) : Course := { c with store := s }

/-- The course after a reply, when the other sessions had left the store `s`. -/
def step (c : Course) (s : Store) (committed : Bool) (after : List Write) : Course :=
  if committed then ⟨s.applyAll c.pending, after, c.deeds ++ [(s, c.pending)]⟩
  else ⟨s, after, c.deeds⟩

end Course

namespace Script

variable {α β : Type} {may : Statement → Failure → Prop}

/-- Every commit of the script is a deed, and its end satisfies the postcondition. -/
def Safe (may : Statement → Failure → Prop) :
    Script α → (Except Failure α → Course → Prop) → Course → Prop
  | done r, Q, c => Q r c
  | ask q next, Q, c => ∀ s, Others c.pending c.store s → ∀ reply after,
      q.Does may s c.pending reply after →
        (q.committed reply = true → Deed s c.pending) ∧
          Safe may (next reply) Q (c.step s (q.committed reply) after)

/-! ## Composition -/

variable {Q Q' : Except Failure α → Course → Prop} {c : Course}

theorem Safe.mono {p : Script α} (h : Safe may p Q c) (hQ : ∀ r c', Q r c' → Q' r c') :
    Safe may p Q' c := by
  induction p generalizing c with
  | done r => exact hQ r c h
  | ask q next ih =>
      intro s hs reply after hd
      exact ⟨(h s hs reply after hd).1, ih reply (h s hs reply after hd).2⟩

/-- The postcondition of the first part of a script that goes on with its result. -/
def Then (f : α → Script β) (may : Statement → Failure → Prop)
    (R : Except Failure β → Course → Prop) (r : Except Failure α) (c : Course) : Prop :=
  match r with
  | .ok a => Safe may (f a) R c
  | .error e => R (.error e) c

theorem safe_bind {p : Script α} {f : α → Script β} {R : Except Failure β → Course → Prop}
    (h : Safe may p (Then f may R) c) : Safe may (p >>= f) R c := by
  induction p generalizing c with
  | done r =>
      cases r with
      | ok a => exact h
      | error e => exact h
  | ask q next ih =>
      intro s hs reply after hd
      exact ⟨(h s hs reply after hd).1, ih reply (h s hs reply after hd).2⟩

theorem safe_attempt {p : Script α} {R : Except Failure (Except Failure α) → Course → Prop}
    (h : Safe may p (fun r c' => R (.ok r) c') c) : Safe may p.attempt R c := by
  induction p generalizing c with
  | done r => exact h
  | ask q next ih =>
      intro s hs reply after hd
      exact ⟨(h s hs reply after hd).1, ih reply (h s hs reply after hd).2⟩

/-- What other sessions do before a script goes on does not matter to it. -/
theorem Safe.on {p : Script α} (h : Safe may p Q c) {s : Store}
    (hs : Others c.pending c.store s) (hQ : ∀ r, Q r c → Q r (c.on s)) :
    Safe may p Q (c.on s) := by
  -- a script that is not done allows for others before its first statement anyway
  cases p with
  | done r => exact hQ r h
  | ask q next =>
      intro s' hs' reply after hd
      exact h s' (hs.trans hs') reply after hd

/-- The catalog stays as it is. -/
theorem Safe.catalog {p : Script α} (h : Safe may p Q c) :
    Safe may p (fun r c' => Q r c' ∧ c'.store.items = c.store.items) c := by
  induction p generalizing c with
  | done r => exact ⟨h, rfl⟩
  | ask q next ih =>
      intro s hs reply after hd
      obtain ⟨hdeed, hsafe⟩ := h s hs reply after hd
      -- neither the other sessions nor a commit change the catalog
      have hitems : (c.step s (q.committed reply) after).store.items = c.store.items := by
        unfold Course.step
        split
        · exact (s.items_applyAll c.pending).trans hs.grows.items
        · exact hs.grows.items
      exact ⟨hdeed, (ih reply hsafe).mono fun r c' hr => ⟨hr.1, hr.2.trans hitems⟩⟩

/-! ## Statements -/

/-- A statement by itself: what its failure and its success must establish. -/
theorem safe_exec {q : Statement} {Q : Except Failure q.Reply → Course → Prop}
    (fails : ∀ s e after, Others c.pending c.store s → q.Does may s c.pending (.error e) after →
      Q (.error e) ⟨s, after, c.deeds⟩)
    (works : ∀ s reply ws, Others c.pending c.store s → q.Yields (s.applyAll c.pending) reply ws →
      (q = .commit → Deed s c.pending) ∧
        Q (.ok reply) (c.step s (q == .commit) (if q.endsWork then [] else c.pending ++ ws))) :
    Safe may (exec q) Q c := by
  intro s hs reply after hd
  cases reply with
  | error e => exact ⟨fun hc => (by cases hc), fails s e after hs hd⟩
  | ok reply =>
      obtain ⟨ws, hy, rfl⟩ := hd
      obtain ⟨hdeed, hQ⟩ := works s reply ws hs hy
      exact ⟨fun hc => hdeed (by simpa [Statement.committed] using hc), hQ⟩

/-- A statement that only reads: the session goes on as it stood. -/
theorem safe_read {q : Statement} {Q : Except Failure q.Reply → Course → Prop}
    (hq : q.isReading = true)
    (fails : ∀ s e, Others c.pending c.store s → Q (.error e) (c.on s))
    (works : ∀ s reply, Others c.pending c.store s →
      q.answer (s.applyAll c.pending) = .ok (reply, []) → Q (.ok reply) (c.on s)) :
    Safe may (exec q) Q c := by
  refine safe_exec (fun s e after hs hd => ?_) fun s reply ws hs hy => ?_
  · obtain ⟨rfl, -⟩ := Statement.does_of_isReading hq hd
    exact fails s e hs
  · obtain ⟨rfl, ha⟩ := Statement.yields_of_isReading hq hy
    have hc : q ≠ .commit := by rintro rfl; cases hq
    have he : q.endsWork = false := by
      cases q <;> first | rfl | cases hq
    refine ⟨fun h => absurd h hc, ?_⟩
    rw [beq_eq_false_iff_ne.mpr hc, he, List.append_nil]
    exact works s reply hs ha

/-- A commit. When it fails, nothing of it was done. -/
theorem safe_commit {Q : Except Failure Unit → Course → Prop}
    (fails : ∀ s e, Others c.pending c.store s → Q (.error e) (c.on s))
    (works : ∀ s, Others c.pending c.store s → Deed s c.pending ∧
      Q (.ok ()) ⟨s.applyAll c.pending, [], c.deeds ++ [(s, c.pending)]⟩) :
    Safe may (exec .commit) Q c :=
  safe_exec
    (fun s e after hs hd => by
      rw [Statement.does_commit_error hd]
      exact fails s e hs)
    fun s _ _ hs _ => ⟨fun _ => (works s hs).1, (works s hs).2⟩

/-- A statement that gives up what is pending. -/
theorem safe_discard {q : Statement} {Q : Except Failure q.Reply → Course → Prop}
    (hq : q = .rollback ∨ q = .invalidate)
    (fails : ∀ s e after, Others c.pending c.store s → Q (.error e) ⟨s, after, c.deeds⟩)
    (works : ∀ s reply, Others c.pending c.store s → Q (.ok reply) ⟨s, [], c.deeds⟩) :
    Safe may (exec q) Q c := by
  rcases hq with rfl | rfl
  · exact safe_exec (fun s e after hs _ => fails s e after hs) fun s reply _ hs _ =>
      ⟨fun h => (by cases h), works s reply hs⟩
  · exact safe_exec (fun s e after hs _ => fails s e after hs) fun s reply _ hs _ =>
      ⟨fun h => (by cases h), works s reply hs⟩

/-- The end of a session, after which nothing is pending even if it fails. -/
theorem safe_close {Q : Except Failure Unit → Course → Prop}
    (fails : ∀ s e, Others c.pending c.store s → may .close e → Q (.error e) ⟨s, [], c.deeds⟩)
    (works : ∀ s, Others c.pending c.store s → Q (.ok ()) ⟨s, [], c.deeds⟩) :
    Safe may (exec .close) Q c := by
  refine safe_exec (fun s e after hs hd => ?_) fun s reply _ hs _ =>
    ⟨fun h => (by cases h), works s hs⟩
  obtain ⟨he, rfl⟩ := Statement.does_close_error hd
  exact fails s e hs he

/-- A new row of the log, under an id that is not in sight. -/
theorem safe_append {draft : Draft} {Q : Except Failure Transaction → Course → Prop}
    (fails : ∀ s e after, Others c.pending c.store s → Q (.error e) ⟨s, after, c.deeds⟩)
    (works : ∀ s id, Others c.pending c.store s →
      id ∉ (s.applyAll c.pending).transactions.map (·.id) →
      Q (.ok (draft.row id)) ⟨s, c.pending ++ [.append (draft.row id)], c.deeds⟩) :
    Safe may (exec (.append draft)) Q c := by
  refine safe_exec (fun s e after hs _ => fails s e after hs) fun s row ws hs hy =>
    ⟨fun h => (by cases h), ?_⟩
  obtain ⟨id, hid, rfl, rfl⟩ := hy
  exact works s id hs hid

/-- A new ownership. -/
theorem safe_grant {account item transaction : Int}
    {Q : Except Failure Ownership → Course → Prop}
    (fails : ∀ s e after, Others c.pending c.store s → Q (.error e) ⟨s, after, c.deeds⟩)
    (works : ∀ s own, Others c.pending c.store s →
      Q (.ok ⟨own, account, item, transaction⟩)
        ⟨s, c.pending ++ [.own ⟨own, account, item, transaction⟩], c.deeds⟩) :
    Safe may (exec (.grant account item transaction)) Q c := by
  refine safe_exec (fun s e after hs _ => fails s e after hs) fun s row ws hs hy =>
    ⟨fun h => (by cases h), ?_⟩
  obtain ⟨-, -, own, rfl, rfl⟩ := hy
  exact works s own hs

/-- A debit changes the balance only if it covers the amount. -/
theorem safe_debit {account n : Int} {Q : Except Failure Bool → Course → Prop}
    (fails : ∀ s e after, Others c.pending c.store s → Q (.error e) ⟨s, after, c.deeds⟩)
    (refuses : ∀ s, Others c.pending c.store s → Q (.ok false) (c.on s))
    (works : ∀ s held, Others c.pending c.store s → 0 < n →
      (s.applyAll c.pending).balance? account = some held → n ≤ held →
      Q (.ok true) ⟨s, c.pending ++ [.balance account (-n)], c.deeds⟩) :
    Safe may (exec (.debit account (.whole n))) Q c := by
  refine safe_exec (fun s e after hs _ => fails s e after hs) fun s row ws hs hy =>
    ⟨fun h => (by cases h), ?_⟩
  rcases Statement.yields_debit hy with ⟨rfl, rfl⟩ | ⟨rfl, m, held, hm, hn, rfl, hb, hle⟩
  · simpa [Course.step, Course.on, Statement.endsWork] using refuses s hs
  · obtain rfl := Quantity.whole.inj hm
    exact works s held hs hn hb hle

/-- A credit changes the balance of an account that exists. -/
theorem safe_credit {account n : Int} {Q : Except Failure Bool → Course → Prop}
    (fails : ∀ s e after, Others c.pending c.store s → Q (.error e) ⟨s, after, c.deeds⟩)
    (refuses : ∀ s, Others c.pending c.store s → Q (.ok false) (c.on s))
    (works : ∀ s held, Others c.pending c.store s → 0 < n →
      (s.applyAll c.pending).balance? account = some held →
      Q (.ok true) ⟨s, c.pending ++ [.balance account n], c.deeds⟩) :
    Safe may (exec (.credit account (.whole n))) Q c := by
  refine safe_exec (fun s e after hs _ => fails s e after hs) fun s row ws hs hy =>
    ⟨fun h => (by cases h), ?_⟩
  rcases Statement.yields_credit hy with ⟨rfl, rfl⟩ | ⟨rfl, m, held, hm, hn, rfl, hb⟩
  · simpa [Course.step, Course.on, Statement.endsWork] using refuses s hs
  · obtain rfl := Quantity.whole.inj hm
    exact works s held hs hn hb

/-- A settlement changes a row of the log that is still in the expected state. -/
theorem safe_settle {id : Int} {current new : String} {time : Moment}
    {Q : Except Failure Bool → Course → Prop}
    (fails : ∀ s e after, Others c.pending c.store s → Q (.error e) ⟨s, after, c.deeds⟩)
    (refuses : ∀ s, Others c.pending c.store s → Q (.ok false) (c.on s))
    (works : ∀ s t, Others c.pending c.store s →
      (s.applyAll c.pending).transaction? id = some t → t.status = current →
      Q (.ok true) ⟨s, c.pending ++ [.status id new (some time)], c.deeds⟩) :
    Safe may (exec (.settle id current new time)) Q c := by
  refine safe_exec (fun s e after hs _ => fails s e after hs) fun s row ws hs hy =>
    ⟨fun h => (by cases h), ?_⟩
  rcases Statement.yields_settle hy with ⟨rfl, rfl⟩ | ⟨rfl, rfl, t, ht, hst⟩
  · simpa [Course.step, Course.on, Statement.endsWork] using refuses s hs
  · exact works s t hs ht hst

end Script

end Scrip
