import Scrip.Proofs.Http.Unchanged
import Scrip.Proofs.Service.Operation
import Scrip.Proofs.Store.Notes
set_option autoImplicit false

/-! # The deed of a request

A request does one deed at most, whatever fails under it. So it adds one row to the log at most,
and the only note it can leave there is that of a failed purchase.
-/

namespace Scrip

open Script

variable {may : Statement → Failure → Prop}

/-! ## Frugal scripts -/

namespace Script

variable {α β : Type} {p : Script α}

/-- Whatever store it finds, the script does one deed at most. -/
def Frugal (may : Statement → Failure → Prop) (p : Script α) : Prop :=
  ∀ s, Safe may p (fun _ c => c.deeds.length ≤ 1) (.fresh s)

theorem NeverCommits.frugal (h : p.NeverCommits) : Frugal may p := by
  intro s
  refine (h.safe (.fresh s)).mono fun r c hc => ?_
  rw [hc]
  exact Nat.zero_le 1

theorem Frugal.unitOfWork (h : Frugal may p) : Frugal may (unitOfWork p) :=
  fun _ => safe_ownWork (P := fun ds => ds.length ≤ 1) (Nat.zero_le 1) h

/-- What is read before a script does not count. -/
theorem Reads.frugal_bind {k : α → Script β} (h : p.Reads) (hk : ∀ a, Frugal may (k a)) :
    Frugal may (p >>= k) := by
  refine fun s => safe_bind (h.safe fun r s' _ => ?_)
  cases r with
  | error e => exact Nat.zero_le 1
  | ok a => exact hk a s'

/-- Nor does what is made of the result of a script. -/
theorem Frugal.bind_done {k : α → Script β} (h : Frugal may p)
    (hk : ∀ a, ∃ r, k a = .done r) : Frugal may (p >>= k) := by
  refine fun s => safe_bind ((h s).mono fun r c hc => ?_)
  cases r with
  | error e => exact hc
  | ok a =>
      obtain ⟨r, hr⟩ := hk a
      show Safe may (k a) _ c
      rw [hr]
      exact hc

theorem Frugal.attempt (h : Frugal may p) : Frugal may p.attempt := fun s => safe_attempt (h s)

end Script

/-! ## The services that write -/

theorem Checkout.Bought.length_le {now : Moment} {account id : Int}
    {r : Except Failure Purchase.Outcome} {ds : List (Store × List Write)}
    (h : Bought now account id r ds) : ds.length ≤ 1 := by
  match r, h with
  | .ok (.committed i t left), ⟨_, item, _, _, s, own, held, hds, _⟩ => simp [hds]
  | .ok (.declined d), Or.inl hds => simp [hds]
  | .ok (.declined d), Or.inr ⟨_, Or.inl hds⟩ => simp [hds]
  | .ok (.declined d), Or.inr ⟨_, Or.inr ⟨s, item, text, t, _, _, hds⟩⟩ => simp [hds]
  | .error e, hds => simp [show ds = [] from hds]

theorem Checkout.frugal_purchase (now : Moment) (account id : Int) :
    Frugal may (purchase now account id) :=
  Frugal.unitOfWork fun s => (safe_buy s).mono fun _ _ hc => hc.length_le

theorem TopUps.frugal_request (settings : Settings) (now : Moment) (account : Int)
    (amount : Amount) (method : String) (reference : Option String) :
    Frugal may (request settings now account amount method reference) := by
  refine fun s => (safe_request s).mono ?_
  rintro (e | row) c hc
  · simp [show c.deeds = [] from hc]
  · obtain ⟨-, s', cents, credits, -, -, hds⟩ := hc
    simp [hds]

theorem TopUps.frugal_settle (now : Moment) (id : Int) (approved : Bool) :
    Frugal may (settle now id approved) := by
  refine fun s => (safe_settle s).mono ?_
  rintro (e | row) c hc
  · simp [show c.deeds = [] from hc]
  · obtain ⟨-, s', old, -, -, -, hds⟩ := hc
    simp [hds]

/-! ## Requests -/

namespace Http

variable {settings : Settings} {now : Moment} {request : Request}

theorem frugal_done (r : Except Failure Response) : Frugal may (done r) := fun _ => Nat.zero_le 1

theorem frugal_withData {α : Type} {data : Except (List Issue) α}
    {handler : α → Script Response} (h : ∀ a, Frugal may (handler a)) :
    Frugal may (withData data handler) := by
  cases data with
  | ok a => exact h a
  | error issues => exact frugal_done _

theorem frugal_forCaller {handler : Identity.Caller → Script Response}
    (h : ∀ caller, Frugal may (handler caller)) :
    Frugal may (forCaller settings now request handler) :=
  ((Identity.reads_authenticate _ _ _).frugal_bind h).unitOfWork

theorem frugal_withBody {handler : Body → Script Response}
    (h : ∀ body, Frugal may (handler body)) : Frugal may (withBody request handler) := by
  unfold withBody
  split
  · exact frugal_done _
  · exact frugal_done _
  · exact h _

theorem frugal_purchaseHandler (item : String) (caller : Identity.Caller) :
    Frugal may (purchaseHandler now item caller) := by
  refine frugal_withData fun id => (Checkout.frugal_purchase now caller.account id).bind_done ?_
  rintro (⟨i, t, left⟩ | d)
  · exact ⟨_, rfl⟩
  · exact ⟨_, rfl⟩

theorem frugal_handle (route : Route) : Frugal may (handle settings now request route) := by
  cases route with
  | topUp =>
      exact frugal_withBody fun body => frugal_forCaller fun caller => frugal_withData fun data =>
        (TopUps.frugal_request _ _ _ _ _ _).bind_done fun t => ⟨_, rfl⟩
  | purchase item => exact frugal_forCaller fun caller => frugal_purchaseHandler item caller
  | settle transaction =>
      refine frugal_withBody fun body => Reads.frugal_bind (asks_done _) fun _ =>
        Frugal.unitOfWork (frugal_withData fun data => ?_)
      exact (TopUps.frugal_settle _ _ _).bind_done fun t => ⟨_, rfl⟩
  | _ => exact (neverCommits_handle rfl).frugal

theorem frugal_respond : Frugal may (respond settings now request) := by
  unfold respond
  split
  · exact frugal_done _
  · exact frugal_done _
  · exact frugal_done _
  · refine (frugal_handle _).attempt.bind_done ?_
    rintro (e | response)
    · dsimp only
      split
      · exact ⟨_, rfl⟩
      · exact ⟨_, rfl⟩
    · exact ⟨_, rfl⟩

theorem frugal_serve : Frugal may (serve settings now request) := by
  unfold serve
  split
  · exact frugal_respond.bind_done fun response => ⟨_, rfl⟩
  · exact frugal_respond

end Http

theorem Deeds.eq_of_length_le {s s' : Store} {ds : List (Store × List Write)}
    (h : Deeds s ds s') (hlength : ds.length ≤ 1) : ∃ w, Deed s w ∧ s' = s.applyAll w := by
  cases h with
  | none s => exact ⟨[], Deed.nothing, rfl⟩
  | first deed fits rest =>
      obtain rfl := List.length_eq_zero_iff.mp (Nat.le_zero.mp (Nat.le_of_succ_le_succ hlength))
      exact ⟨_, deed, rest.eq_of_nil⟩

theorem Ledger.serve_deed (l : Ledger) (f : Faults) (request : Http.Request) :
    ∃ w, Deed l.store w ∧ (l.serve (.failing f) request).2.store = l.store.applyAll w := by
  have hsafe : (Http.serve l.settings l.now request).Safe (Strikes f)
      (fun _ c => c.deeds.length ≤ 1) (.fresh l.store) := Http.frugal_serve l.store
  obtain ⟨ds, hlength, hds⟩ := l.run_of_safe (P := fun _ ds => ds.length ≤ 1) hsafe
  exact hds.eq_of_length_le hlength

/-! ## Notes -/

theorem Store.notes_status (s : Store) (id : Int) (status : String) (time : Option Moment) :
    (s.apply (.status id status time)).transactions.map (·.note) =
      s.transactions.map (·.note) := by
  rw [apply, changeStatus_eq_map, List.map_map]
  refine List.map_congr_left fun t _ => ?_
  show (restate id status time t).note = t.note
  unfold restate
  split <;> rfl

/-- A deed leaves the old notes alone, and notes nothing but a failed purchase. -/
theorem Deed.notedBy {s : Store} {w : List Write} (h : Deed s w) : s.NotedBy (s.applyAll w) := by
  cases h with
  | nothing => exact Store.notedBy_of_notes rfl
  | sale offered forSale funds covered => exact Store.notedBy_of_append rfl (Or.inl rfl)
  | note offered forSale => exact Store.notedBy_of_append rfl (Or.inr ⟨rfl, rfl⟩)
  | request positive => exact Store.notedBy_of_append rfl (Or.inl rfl)
  | approval found pending positive funds => exact Store.notedBy_of_notes (s.notes_status _ _ _)
  | rejection found pending => exact Store.notedBy_of_notes (s.notes_status _ _ _)

theorem Ledger.notedBy_serve (l : Ledger) (f : Faults) (request : Http.Request) :
    l.store.NotedBy (l.serve (.failing f) request).2.store := by
  obtain ⟨w, hdeed, hstore⟩ := l.serve_deed f request
  rw [hstore]
  exact hdeed.notedBy

end Scrip
