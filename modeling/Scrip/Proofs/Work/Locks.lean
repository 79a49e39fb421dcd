import Scrip.Work.Locks
set_option autoImplicit false

/-! # Sections exclude each other by account

What carries the proof is that a task refers to the very lock that the registry has for its account
(`Locks.Sound.registered`): entries come and go, but only while nobody refers to their locks. So the
tasks of one account ask for one lock, those of different accounts for different ones, and whether a
task has to wait is decided by the tasks of its own account alone.
-/

namespace Scrip

namespace Phase

def isInside (p : Phase) (account : Int) : Bool :=
  match p with
  | inside a _ => a == account
  | _ => false

def waitsFor (p : Phase) (account : Int) : Bool :=
  match p with
  | waiting a _ => a == account
  | _ => false

variable {p : Phase} {account : Int} {lock : Nat}

theorem isInside_iff : p.isInside account = true ↔ ∃ lock, p = .inside account lock := by
  cases p <;> simp [isInside]

theorem waitsFor_iff : p.waitsFor account = true ↔ ∃ lock, p = .waiting account lock := by
  cases p <;> simp [waitsFor]

theorem holds_iff : p.holds lock = true ↔ ∃ account, p = .inside account lock := by
  cases p <;> simp [holds]

theorem awaits_iff : p.awaits lock = true ↔ ∃ account, p = .waiting account lock := by
  cases p <;> simp [awaits]

theorem refersTo_iff : p.refersTo lock = true ↔ ∃ account, p.claim? = some (account, lock) := by
  cases p <;> simp [refersTo, claim?]

end Phase

namespace Locks

variable {s s' : Locks} {t u : Nat} {a b : Int} {l l' : Nat} {p : Phase}

/-! ## Reading a state -/

theorem phase_move (s : Locks) (t : Nat) (p : Phase) (u : Nat) :
    (s.move t p).phase u = if u = t then p else s.phase u := by
  unfold phase move
  by_cases h : u = t
  · simp [h]
  · have hne : (t == u) = false := beq_eq_false_iff_ne.mpr (Ne.symm h)
    have hfind : (s.tasks.filter (·.1 != t)).find? (·.1 == u) = s.tasks.find? (·.1 == u) := by
      rw [List.find?_filter]
      congr 1
      funext e
      by_cases he : e.1 = u <;> simp [he, h]
    simp only [List.find?_cons, hne, hfind, if_neg h]

@[simp] theorem phase_enqueue (s : Locks) (t u : Nat) : (s.enqueue t).phase u = s.phase u := rfl

@[simp] theorem phase_dequeue (s : Locks) (t u : Nat) : (s.dequeue t).phase u = s.phase u := rfl

@[simp] theorem phase_drop (s : Locks) (a : Int) (u : Nat) : (s.drop a).phase u = s.phase u := rfl

/-- A task that is not listed is outside. -/
theorem phase_eq_outside_or_mem (s : Locks) (t : Nat) :
    s.phase t = .outside ∨ (t, s.phase t) ∈ s.tasks := by
  unfold phase
  split
  · rename_i e he
    obtain rfl : e.1 = t := by simpa using List.find?_some he
    exact Or.inr (List.mem_of_find?_eq_some he)
  · exact Or.inl rfl

theorem anyPhase_iff {q : Phase → Bool} (hq : q .outside = false) :
    s.anyPhase q = true ↔ ∃ t, q (s.phase t) = true := by
  unfold anyPhase
  rw [List.any_eq_true]
  constructor
  · rintro ⟨e, -, he⟩
    exact ⟨e.1, he⟩
  · rintro ⟨t, ht⟩
    rcases s.phase_eq_outside_or_mem t with hout | hmem
    · rw [hout, hq] at ht
      cases ht
    · exact ⟨_, hmem, ht⟩

theorem isHeld_iff : s.isHeld l = true ↔ ∃ t a, s.phase t = .inside a l := by
  unfold isHeld
  rw [anyPhase_iff rfl]
  simp only [Phase.holds_iff]

theorem isReferred_iff : s.isReferred l = true ↔ ∃ t a, (s.phase t).claim? = some (a, l) := by
  unfold isReferred
  rw [anyPhase_iff rfl]
  simp only [Phase.refersTo_iff]

theorem lockOf?_cons (s : Locks) (a : Int) (l made : Nat) (b : Int) :
    { s with made := made, table := (a, l) :: s.table }.lockOf? b =
      if b = a then some l else s.lockOf? b := by
  unfold lockOf?
  by_cases h : b = a
  · simp [h]
  · simp [h, Ne.symm h]

theorem lockOf?_drop (s : Locks) (a b : Int) :
    (s.drop a).lockOf? b = if b = a then none else s.lockOf? b := by
  unfold lockOf? drop
  rw [List.find?_filter]
  by_cases h : b = a
  · subst h
    simp
  · rw [if_neg h]
    congr 2
    funext e
    by_cases he : e.1 = b <;> simp [he, h]

/-! ## What keeps the sections apart -/

/-- The registry has the locks of all tasks, each lock for one account, and new locks are new. No
two tasks are inside the section of one account, and who waits is in the queue. -/
structure Sound (s : Locks) : Prop where
  registered : ∀ t a l, (s.phase t).claim? = some (a, l) → s.lockOf? a = some l
  apart : ∀ a b l, s.lockOf? a = some l → s.lockOf? b = some l → a = b
  made : ∀ a l, s.lockOf? a = some l → l < s.made
  exclusive : ∀ t u a, (s.phase t).isInside a = true → (s.phase u).isInside a = true → t = u
  queued : ∀ t a, (s.phase t).waitsFor a = true → t ∈ s.queue

theorem sound_empty : Sound {} where
  registered := by intro t a l h; cases h
  apart := by intro a b l h; cases h
  made := by intro a l h; cases h
  exclusive := by intro t u a h; cases h
  queued := by intro t a h; cases h

namespace Sound

/-- A task that moves refers to the lock of its account or to none, is inside only if nobody else
is, and is in the queue if it waits. -/
theorem move (h : s.Sound) {q : List Nat} (hclaim : ∀ a l, p.claim? = some (a, l) →
      s.lockOf? a = some l)
    (hinside : ∀ b, p.isInside b = true → ∀ u, (s.phase u).isInside b = false)
    (hqueue : ∀ u a, (if u = t then p else s.phase u).waitsFor a = true → u ∈ q) :
    Sound { s.move t p with queue := q } where
  registered := by
    intro u a l hu
    change ((s.move t p).phase u).claim? = some (a, l) at hu
    rw [phase_move] at hu
    split at hu
    · exact hclaim a l hu
    · exact h.registered u a l hu
  apart := h.apart
  made := h.made
  exclusive := by
    intro u v a hu hv
    change ((s.move t p).phase u).isInside a = true at hu
    change ((s.move t p).phase v).isInside a = true at hv
    rw [phase_move] at hu hv
    split at hu <;> split at hv
    · rename_i hut hvt
      exact hut.trans hvt.symm
    · rw [hinside a hu v] at hv
      cases hv
    · rw [hinside a hv u] at hu
      cases hu
    · exact h.exclusive u v a hu hv
  queued := by
    intro u a hu
    change ((s.move t p).phase u).waitsFor a = true at hu
    rw [phase_move] at hu
    exact hqueue u a hu

/-- When a task moves to where it does not wait, the others still wait in the queue. -/
theorem queued_of_move (h : s.Sound) (hp : ∀ a, p.waitsFor a = false)
    (hu : (if u = t then p else s.phase u).waitsFor a = true) : u ≠ t ∧ u ∈ s.queue := by
  split at hu
  · rw [hp a] at hu
    cases hu
  · rename_i hne
    exact ⟨hne, h.queued u a hu⟩

theorem queued_elsewhere (h : s.Sound) (hp : ∀ a, p.waitsFor a = false)
    (hu : (if u = t then p else s.phase u).waitsFor a = true) : u ∈ s.queue.filter (· != t) := by
  obtain ⟨hne, hmem⟩ := h.queued_of_move hp hu
  exact List.mem_filter.mpr ⟨hmem, bne_iff_ne.mpr hne⟩

/-- The lock that an account gets from the registry is that of no other account. -/
theorem lockFor (h : s.Sound) (a : Int) :
    (s.lockFor a).2.Sound ∧ (s.lockFor a).2.lockOf? a = some (s.lockFor a).1 := by
  unfold Locks.lockFor
  cases ha : s.lockOf? a with
  | some l => exact ⟨h, ha⟩
  | none =>
      refine ⟨⟨?_, ?_, ?_, h.exclusive, h.queued⟩, ?_⟩
      · intro t b l ht
        have hb := h.registered t b l ht
        have hne : b ≠ a := by
          rintro rfl
          rw [ha] at hb
          cases hb
        rw [lockOf?_cons, if_neg hne, hb]
      · -- the new lock is above all that were made, so it is not the lock of another account
        intro b c l hb hc
        rw [lockOf?_cons] at hb hc
        split at hb <;> split at hc
        · rename_i hba hca
          exact hba.trans hca.symm
        · obtain rfl := Option.some.inj hb
          exact absurd (h.made c _ hc) (Nat.lt_irrefl _)
        · obtain rfl := Option.some.inj hc
          exact absurd (h.made b _ hb) (Nat.lt_irrefl _)
        · exact h.apart b c l hb hc
      · intro b l hb
        rw [lockOf?_cons] at hb
        split at hb
        · obtain rfl := Option.some.inj hb
          exact Nat.lt_succ_self _
        · exact Nat.lt_succ_of_lt (h.made b l hb)
      · rw [lockOf?_cons, if_pos rfl]

/-- Nobody refers to the lock of an entry that is collected, so nobody misses it. -/
theorem drop (h : s.Sound) (ha : s.lockOf? a = some l) (hfree : s.isReferred l = false) :
    (s.drop a).Sound where
  registered := by
    intro t b l' ht
    have hb := h.registered t b l' ht
    -- a task of the account would refer to the lock of the entry
    have hne : b ≠ a := by
      rintro rfl
      obtain rfl := Option.some.inj (ha.symm.trans hb)
      have hreferred : s.isReferred l = true := isReferred_iff.mpr ⟨t, b, ht⟩
      rw [hreferred] at hfree
      cases hfree
    rw [lockOf?_drop, if_neg hne, hb]
  apart := by
    intro b c l' hb hc
    rw [lockOf?_drop] at hb hc
    split at hb
    · cases hb
    · split at hc
      · cases hc
      · exact h.apart b c l' hb hc
  made := by
    intro b l' hb
    rw [lockOf?_drop] at hb
    split at hb
    · cases hb
    · exact h.made b l' hb
  exclusive := h.exclusive
  queued := h.queued

/-- The lock of a task is held exactly if somebody is inside the section of its account. -/
theorem isHeld_iff (h : s.Sound) (ht : (s.phase t).claim? = some (a, l)) :
    s.isHeld l = true ↔ ∃ u, (s.phase u).isInside a = true := by
  have ha := h.registered t a l ht
  rw [Locks.isHeld_iff]
  constructor
  · rintro ⟨u, b, hu⟩
    have hb := h.registered u b l (by rw [hu]; rfl)
    obtain rfl := h.apart a b l ha hb
    exact ⟨u, Phase.isInside_iff.mpr ⟨l, hu⟩⟩
  · rintro ⟨u, hu⟩
    obtain ⟨l', hu⟩ := Phase.isInside_iff.mp hu
    have hl' := h.registered u a l' (by rw [hu]; rfl)
    obtain rfl := Option.some.inj (ha.symm.trans hl')
    exact ⟨u, a, hu⟩

/-- Who gets a free lock finds nobody inside the section of its account. -/
theorem alone (h : s.Sound) (ht : (s.phase t).claim? = some (a, l)) (hfree : s.isHeld l = false) :
    ∀ b, (Phase.inside a l).isInside b = true → ∀ u, (s.phase u).isInside b = false := by
  intro b hb u
  obtain rfl : a = b := by simpa [Phase.isInside] using hb
  refine Bool.eq_false_iff.mpr fun hu => ?_
  rw [(h.isHeld_iff ht).mpr ⟨u, hu⟩] at hfree
  cases hfree

/-- Those who wait for the lock of a task are those who wait for the section of its account. -/
theorem firstWaiting_eq (h : s.Sound) (ht : (s.phase t).claim? = some (a, l)) :
    s.firstWaiting l = s.queue.find? fun u => (s.phase u).waitsFor a := by
  have ha := h.registered t a l ht
  have hsame : ∀ u, (s.phase u).awaits l = (s.phase u).waitsFor a := by
    intro u
    rw [Bool.eq_iff_iff, Phase.awaits_iff, Phase.waitsFor_iff]
    constructor
    · rintro ⟨b, hu⟩
      have hb := h.registered u b l (by rw [hu]; rfl)
      obtain rfl := h.apart a b l ha hb
      exact ⟨l, hu⟩
    · rintro ⟨l', hu⟩
      have hl' := h.registered u a l' (by rw [hu]; rfl)
      obtain rfl := Option.some.inj (ha.symm.trans hl')
      exact ⟨a, hu⟩
  unfold firstWaiting
  simp only [hsame]

end Sound

/-! ## Events -/

/-- The events that can happen, and the states that they lead to. -/
inductive Leads (s : Locks) : LockEvent → Locks → Prop where
  | look {t : Nat} (a : Int) (out : s.phase t = .outside) :
      Leads s (.look t a) ((s.lockFor a).2.move t (.arriving a (s.lockFor a).1))
  | wait {t : Nat} {a : Int} {l : Nat} (here : s.phase t = .arriving a l)
      (busy : s.isHeld l = true ∨ (s.firstWaiting l).isSome = true) :
      Leads s (.ask t) ((s.move t (.waiting a l)).enqueue t)
  | enter {t : Nat} {a : Int} {l : Nat} (here : s.phase t = .arriving a l)
      (free : s.isHeld l = false) (first : s.firstWaiting l = none) :
      Leads s (.ask t) (s.move t (.inside a l))
  | wake {t : Nat} {a : Int} {l : Nat} (here : s.phase t = .waiting a l)
      (free : s.isHeld l = false) (first : s.firstWaiting l = some t) :
      Leads s (.wake t) ((s.move t (.inside a l)).dequeue t)
  | giveUp {t : Nat} {a : Int} {l : Nat} (here : s.phase t = .waiting a l) :
      Leads s (.giveUp t) ((s.move t .outside).dequeue t)
  | leave {t : Nat} {a : Int} {l : Nat} (here : s.phase t = .inside a l) :
      Leads s (.leave t) (s.move t .outside)
  | collect {a : Int} {l : Nat} (entry : s.lockOf? a = some l) (free : s.isReferred l = false) :
      Leads s (.collect a) (s.drop a)

/-- Nothing happens but the listed events, under their conditions. -/
theorem leads_of_step {e : LockEvent} (h : s.step e = some s') : s.Leads e s' := by
  cases e with
  | look t a =>
      simp only [step] at h
      split at h
      · obtain rfl := Option.some.inj h
        exact Leads.look a ‹_›
      · cases h
  | ask t =>
      simp only [step] at h
      split at h
      · rename_i a l here
        split at h
        · rename_i busy
          obtain rfl := Option.some.inj h
          exact Leads.wait here (by simpa using busy)
        · rename_i idle
          obtain rfl := Option.some.inj h
          simp only [Bool.or_eq_true, not_or, Bool.not_eq_true, Option.isSome_eq_false_iff,
            Option.isNone_iff_eq_none] at idle
          exact Leads.enter here idle.1 idle.2
      · cases h
  | wake t =>
      simp only [step] at h
      split at h
      · rename_i a l here
        split at h
        · cases h
        · rename_i idle
          obtain rfl := Option.some.inj h
          simp only [Bool.or_eq_true, not_or, Bool.not_eq_true, bne_eq_false_iff_eq] at idle
          exact Leads.wake here idle.1 idle.2
      · cases h
  | giveUp t =>
      simp only [step] at h
      split at h
      · obtain rfl := Option.some.inj h
        exact Leads.giveUp ‹_›
      · cases h
  | leave t =>
      simp only [step] at h
      split at h
      · obtain rfl := Option.some.inj h
        exact Leads.leave ‹_›
      · cases h
  | collect a =>
      simp only [step] at h
      split at h
      · cases h
      · rename_i l entry
        split at h
        · cases h
        · rename_i free
          obtain rfl := Option.some.inj h
          exact Leads.collect entry (by simpa using free)

theorem step_of_leads {e : LockEvent} (h : s.Leads e s') : s.step e = some s' := by
  cases h with
  | look a out => simp [step, out]
  | wait here busy =>
      rcases busy with busy | busy <;> simp [step, here, busy]
  | enter here free first => simp [step, here, free, first]
  | wake here free first => simp [step, here, free, first]
  | giveUp here => simp [step, here]
  | leave here => simp [step, here]
  | collect entry free => simp [step, entry, free]

/-- Every event keeps the state sound. -/
theorem Sound.step {e : LockEvent} (h : s.Sound) (hs : s.step e = some s') : s'.Sound := by
  cases leads_of_step hs with
  | @look t a out =>
      obtain ⟨hsound, hlock⟩ := h.lockFor a
      refine hsound.move (q := (s.lockFor a).2.queue) ?_ (fun _ hb => by cases hb) ?_
      · rintro b l ⟨⟩
        exact hlock
      · intro u b hu
        exact (hsound.queued_of_move (fun _ => rfl) hu).2
  | @wait t a l here busy =>
      refine h.move (q := s.queue ++ [t]) ?_ (fun _ hb => by cases hb) ?_
      · rintro b l' ⟨⟩
        exact h.registered t a l (by rw [here]; rfl)
      · intro u b hu
        split at hu
        · rename_i hut
          simp [hut]
        · exact List.mem_append_left _ (h.queued u b hu)
  | @enter t a l here free first =>
      have ht : (s.phase t).claim? = some (a, l) := by rw [here]; rfl
      refine h.move (q := s.queue) ?_ (h.alone ht free) ?_
      · rintro b l' ⟨⟩
        exact h.registered t a l ht
      · intro u b hu
        exact (h.queued_of_move (fun _ => rfl) hu).2
  | @wake t a l here free first =>
      have ht : (s.phase t).claim? = some (a, l) := by rw [here]; rfl
      refine h.move (q := s.queue.filter (· != t)) ?_ (h.alone ht free) ?_
      · rintro b l' ⟨⟩
        exact h.registered t a l ht
      · intro u b hu
        exact h.queued_elsewhere (fun _ => rfl) hu
  | @giveUp t a l here =>
      exact h.move (q := s.queue.filter (· != t)) (fun _ _ hc => by cases hc)
        (fun _ hb => by cases hb) fun u b hu => h.queued_elsewhere (fun _ => rfl) hu
  | @leave t a l here =>
      exact h.move (q := s.queue) (fun _ _ hc => by cases hc) (fun _ hb => by cases hb)
        fun u b hu => (h.queued_of_move (fun _ => rfl) hu).2
  | collect entry free => exact h.drop entry free

/-- Whatever happens, the state stays sound. -/
theorem Sound.run {es : List LockEvent} (h : s.Sound) (hs : s.run es = some s') : s'.Sound := by
  induction es generalizing s with
  | nil =>
      obtain rfl := Option.some.inj hs
      exact h
  | cons e es ih =>
      obtain ⟨s₁, hfirst, hrest⟩ := Option.bind_eq_some_iff.mp hs
      exact ih (h.step hfirst) hrest

/-! ## Who has to wait -/

def IsOccupied (s : Locks) (a : Int) : Prop := ∃ t, (s.phase t).isInside a = true

def next? (s : Locks) (a : Int) : Option Nat := s.queue.find? fun t => (s.phase t).waitsFor a

namespace Sound

theorem waitsFor_of_next? (h : s.next? a = some t) : (s.phase t).waitsFor a = true := by
  simpa using List.find?_some h

/-- Where somebody waits, there is a first one. -/
theorem exists_next? (h : s.Sound) (ht : (s.phase t).waitsFor a = true) :
    ∃ u, s.next? a = some u :=
  Option.isSome_iff_exists.mp (List.find?_isSome.mpr ⟨t, h.queued t a ht, ht⟩)

/-- A task that waits can go in when nobody is inside and it is the first. -/
theorem wake_iff (h : s.Sound) (ht : s.phase t = .waiting a l) :
    (∃ s', s.step (.wake t) = some s' ∧ s'.phase t = .inside a l) ↔
      ¬ s.IsOccupied a ∧ s.next? a = some t := by
  have hclaim : (s.phase t).claim? = some (a, l) := by rw [ht]; rfl
  rw [IsOccupied, ← h.isHeld_iff hclaim, next?, ← h.firstWaiting_eq hclaim, Bool.not_eq_true]
  constructor
  · rintro ⟨s', hs', -⟩
    cases leads_of_step hs' with
    | wake here free first =>
        obtain ⟨rfl, rfl⟩ := Phase.waiting.inj (ht.symm.trans here)
        exact ⟨free, first⟩
  · rintro ⟨free, first⟩
    refine ⟨_, step_of_leads (Leads.wake ht free first), ?_⟩
    rw [phase_dequeue, phase_move, if_pos rfl]

/-- A task that arrives goes in at once when nobody is inside or waits, and else waits. -/
theorem ask_eq (h : s.Sound) (ht : s.phase t = .arriving a l) :
    ∃ s', s.step (.ask t) = some s' ∧
      ((¬ s.IsOccupied a ∧ s.next? a = none ∧ s'.phase t = .inside a l) ∨
        ((s.IsOccupied a ∨ ∃ u, s.next? a = some u) ∧ s'.phase t = .waiting a l)) := by
  have hclaim : (s.phase t).claim? = some (a, l) := by rw [ht]; rfl
  rw [IsOccupied, ← h.isHeld_iff hclaim, next?, ← h.firstWaiting_eq hclaim, Bool.not_eq_true,
    ← Option.isSome_iff_exists]
  by_cases busy : s.isHeld l = true ∨ (s.firstWaiting l).isSome = true
  · refine ⟨_, step_of_leads (Leads.wait ht busy), Or.inr ⟨busy, ?_⟩⟩
    rw [phase_enqueue, phase_move, if_pos rfl]
  · simp only [not_or, Bool.not_eq_true, Option.isSome_eq_false_iff,
      Option.isNone_iff_eq_none] at busy
    refine ⟨_, step_of_leads (Leads.enter ht busy.1 busy.2), Or.inl ⟨busy.1, busy.2, ?_⟩⟩
    rw [phase_move, if_pos rfl]

/-- A task that waits alone at its account can go in, whoever is inside or waits elsewhere. -/
theorem wake_of_alone (h : s.Sound) (ht : s.phase t = .waiting a l)
    (halone : ∀ u, u ≠ t → (s.phase u).isInside a = false ∧ (s.phase u).waitsFor a = false) :
    ∃ s', s.step (.wake t) = some s' ∧ s'.phase t = .inside a l := by
  rw [h.wake_iff ht]
  constructor
  · rintro ⟨u, hu⟩
    by_cases hut : u = t
    · rw [hut, ht] at hu
      cases hu
    · rw [(halone u hut).1] at hu
      cases hu
  · -- somebody is the first of those who wait, and only this task waits
    obtain ⟨u, hu⟩ := h.exists_next? (t := t) (a := a) (by rw [ht]; simp [Phase.waitsFor])
    have hwaits := waitsFor_of_next? hu
    by_cases hut : u = t
    · exact hut ▸ hu
    · rw [(halone u hut).2] at hwaits
      cases hwaits

/-- When nobody is inside, one of those who wait can go in. -/
theorem exists_wake (h : s.Sound) (ht : (s.phase t).waitsFor a = true) (hfree : ¬ s.IsOccupied a) :
    ∃ u l s', s.phase u = .waiting a l ∧ s.step (.wake u) = some s' ∧ s'.phase u = .inside a l := by
  obtain ⟨u, hu⟩ := h.exists_next? ht
  obtain ⟨l, hl⟩ := Phase.waitsFor_iff.mp (waitsFor_of_next? hu)
  obtain ⟨s', hs'⟩ := (h.wake_iff hl).mpr ⟨hfree, hu⟩
  exact ⟨u, l, s', hl, hs'⟩

end Sound

end Locks

/-- **Sections exclude each other by account, and for no other reason.** Whatever has happened, no
two tasks are inside the section of one account. A task that waits can go in exactly if nobody is
inside the section of its account and it is the first that waits for that, so it is not kept out by
tasks that are inside or wait elsewhere; a task that arrives does not even wait then. And when
nobody is inside, one of those who wait can go in. -/
theorem sections_exclude_by_account {es : List LockEvent} {s : Locks}
    (h : Locks.run {} es = some s) :
    (∀ t u a, (s.phase t).isInside a = true → (s.phase u).isInside a = true → t = u) ∧
    (∀ t a l, s.phase t = .waiting a l →
      ((∃ s', s.step (.wake t) = some s' ∧ s'.phase t = .inside a l) ↔
        ¬ s.IsOccupied a ∧ s.next? a = some t)) ∧
    (∀ t a l, s.phase t = .waiting a l →
      (∀ u, u ≠ t → (s.phase u).isInside a = false ∧ (s.phase u).waitsFor a = false) →
      ∃ s', s.step (.wake t) = some s' ∧ s'.phase t = .inside a l) ∧
    (∀ t a l, s.phase t = .arriving a l → ∃ s', s.step (.ask t) = some s' ∧
      ((¬ s.IsOccupied a ∧ s.next? a = none ∧ s'.phase t = .inside a l) ∨
        ((s.IsOccupied a ∨ ∃ u, s.next? a = some u) ∧ s'.phase t = .waiting a l))) ∧
    ∀ t a, (s.phase t).waitsFor a = true → ¬ s.IsOccupied a → ∃ u l s',
      s.phase u = .waiting a l ∧ s.step (.wake u) = some s' ∧ s'.phase u = .inside a l := by
  have hsound : s.Sound := Locks.sound_empty.run h
  exact ⟨hsound.exclusive, fun _ _ _ ht => hsound.wake_iff ht,
    fun _ _ _ ht halone => hsound.wake_of_alone ht halone, fun _ _ _ ht => hsound.ask_eq ht,
    fun _ _ ht hfree => hsound.exists_wake ht hfree⟩

/-- A task has left the section of account 7, and its lock was collected. A second one goes in with
a new lock, a third one waits for it, and two more come to account 8. Then the second one leaves. -/
def LockEvent.rush : List LockEvent :=
  [.look 1 7, .ask 1, .leave 1, .collect 7, .look 2 7, .ask 2, .look 3 7, .look 4 8, .ask 3,
    .ask 4, .look 5 8, .ask 5, .leave 2]

/-- The state after that. -/
def Locks.rush : Locks where
  made := 3
  table := [(8, 2), (7, 1)]
  tasks := [(2, .outside), (5, .waiting 8 2), (4, .inside 8 2), (3, .waiting 7 1), (1, .outside)]
  queue := [3, 5]

theorem sections_exclude_by_account_rush :
    Locks.run {} LockEvent.rush = some Locks.rush ∧
      Locks.rush.phase 3 = .waiting 7 1 ∧ Locks.rush.phase 4 = .inside 8 2 ∧
      Locks.rush.phase 5 = .waiting 8 2 ∧ Locks.rush.step (.wake 5) = none ∧
      ∃ s', Locks.rush.step (.wake 3) = some s' ∧ s'.phase 3 = .inside 7 1 := by
  have hrun : Locks.run {} LockEvent.rush = some Locks.rush := by decide
  have hwaits : Locks.rush.phase 3 = .waiting 7 1 := by decide
  obtain ⟨-, -, halone, -⟩ := sections_exclude_by_account hrun
  refine ⟨hrun, hwaits, by decide, by decide, by decide, halone 3 7 1 hwaits ?_⟩
  intro u hu
  have hlisted : ∀ e ∈ Locks.rush.tasks, e.1 ≠ 3 →
      e.2.isInside 7 = false ∧ e.2.waitsFor 7 = false := by decide
  rcases Locks.rush.phase_eq_outside_or_mem u with hout | hmem
  · rw [hout]
    exact ⟨rfl, rfl⟩
  · exact hlisted _ hmem hu

end Scrip
