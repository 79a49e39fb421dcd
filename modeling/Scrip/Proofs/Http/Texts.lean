import Scrip.Proofs.Http.Deeds
import Scrip.Proofs.Service.Texts
set_option autoImplicit false

/-! # Internal texts stay inside

The texts of storage faults and of crashes are for internal use. They reach no caller: neither at
once, in the answer to the request under which something has failed, nor later, through the note
that the log may keep of it. Both are statements about two runs side by side, of which the second
one meets other texts (`Script.Like`), or finds other notes (`Store.SameButNotes`).
-/

namespace Scrip

open Script

namespace Http

variable {settings : Settings} {now : Moment} {request : Request}

/-! ## Handlers -/

theorem discreet_probe : probe.Discreet := by
  refine like_attempt (discreet_exec (q := .connect) rfl) fun r r' hr => ?_
  cases hr with
  | error he =>
      simp only [he.isCancellation]
      exact discreet_pure none
  | ok _ =>
      refine like_attempt (discreet_exec (q := .ping) rfl) fun r r' hr => ?_
      cases hr with
      | error he =>
          simp only [he.isCancellation]
          exact discreet_pure (some false)
      | ok _ => exact discreet_pure (some true)

theorem discreet_withData {α : Type} {data : Except (List Issue) α}
    {handler : α → Script Response} (h : ∀ a, (handler a).Discreet) :
    (withData data handler).Discreet := by
  cases data with
  | ok a => exact h a
  | error issues => exact discreet_pure _

theorem discreet_forCaller {handler : Identity.Caller → Script Response}
    (h : ∀ caller, (handler caller).Discreet) :
    (forCaller settings now request handler).Discreet :=
  like_unitOfWork (discreet_bind (Identity.discreet_authenticate _ _ _) h)

theorem discreet_withBody {handler : Body → Script Response}
    (h : ∀ body, (handler body).Discreet) : (withBody request handler).Discreet := by
  unfold withBody
  split
  · exact discreet_pure _
  · exact discreet_pure _
  · exact h _

theorem discreet_topUpHandler (body : Body) (caller : Identity.Caller) :
    (topUpHandler settings now body caller).Discreet := by
  refine discreet_withData fun data => ?_
  refine like_seq (TopUps.like_request _ _ _ _) fun t t' ht => ?_
  obtain ⟨note, rfl⟩ := ht.exists_note
  -- the answer does not mention the note of the row
  exact discreet_ofExcept (r := topUpAnswer t)
    (uncancelled_bind (Money.uncancelled_display _) fun _ => uncancelled_ok _)

theorem discreet_purchaseHandler (item : String) (caller : Identity.Caller) :
    (purchaseHandler now item caller).Discreet := by
  refine discreet_withData fun id => discreet_bind Checkout.discreet_purchase fun outcome => ?_
  cases outcome with
  | declined d => exact like_fail (Failure.akin_self d.not_isCancellation)
  | committed item t left => exact discreet_pure _

theorem discreet_transactionsHandler (caller : Identity.Caller) :
    (transactionsHandler settings caller).Discreet :=
  discreet_bind (Journal.discreet_history _) fun records =>
    discreet_bind (discreet_ofExcept (uncancelled_mapM Record.uncancelled_view records)) fun _ =>
      discreet_pure _

theorem discreet_settleHandler (transaction : String) (body : Body) :
    (settleHandler now transaction body).Discreet := by
  refine discreet_withData fun data => like_seq (TopUps.like_settle _) fun t t' ht => ?_
  obtain ⟨note, rfl⟩ := ht.exists_note
  exact discreet_pure _

/-- No handler looks at an internal text. -/
theorem discreet_handle (route : Route) : (handle settings now request route).Discreet := by
  cases route with
  | liveness => exact discreet_pure _
  | readiness => exact discreet_bind discreet_probe fun _ => discreet_pure _
  | rates => exact discreet_pure _
  | balance =>
      exact discreet_forCaller fun caller =>
        discreet_bind Credits.discreet_balance fun _ => discreet_pure _
  | topUp =>
      exact discreet_withBody fun body =>
        discreet_forCaller fun caller => discreet_topUpHandler body caller
  | owned =>
      exact discreet_forCaller fun caller =>
        discreet_bind Registry.discreet_shelf fun _ => discreet_pure _
  | purchase item => exact discreet_forCaller fun caller => discreet_purchaseHandler item caller
  | eligibility item =>
      exact discreet_forCaller fun caller => discreet_withData fun id =>
        discreet_bind Checkout.discreet_preview fun _ => discreet_pure _
  | download item =>
      exact discreet_forCaller fun caller => discreet_withData fun id =>
        discreet_bind Registry.discreet_download fun _ => discreet_pure _
  | transactions => exact discreet_forCaller discreet_transactionsHandler
  | stats =>
      exact discreet_forCaller fun caller =>
        discreet_bind (Journal.discreet_stats _) fun _ => discreet_pure _
  | recommendations =>
      exact discreet_forCaller fun caller => discreet_withData fun requested =>
        discreet_bind (Suggestions.discreet_recommend _) fun _ => discreet_pure _
  | settle transaction =>
      exact discreet_withBody fun body =>
        discreet_bind (discreet_ofExcept (Guard.uncancelled_check _ _)) fun _ =>
          like_unitOfWork (discreet_settleHandler transaction body)

/-! ## Answers -/

/-- Both are answered, and alike. -/
def SameAnswer (r r' : Except Failure Response) : Prop :=
  ∃ response, r = .ok response ∧ r' = .ok response

theorem ofFailure_akin {e e' : Failure} (h : e.Akin e') (now : Moment) :
    Response.ofFailure now e' = Response.ofFailure now e := by
  cases h <;> rfl

theorem like_respond :
    Like SameAnswer (respond settings now request) (respond settings now request) := by
  unfold respond
  split
  · exact .done ⟨_, rfl, rfl⟩
  · exact .done ⟨_, rfl, rfl⟩
  · exact .done ⟨_, rfl, rfl⟩
  · refine like_attempt (discreet_handle _) fun r r' hr => ?_
    cases hr with
    | @ok response response' h =>
        obtain rfl : response = response' := h
        exact .done ⟨response, rfl, rfl⟩
    | error he =>
        simp only [he.isCancellation, ofFailure_akin he]
        exact .done ⟨_, rfl, rfl⟩

theorem like_serve :
    Like SameAnswer (serve settings now request) (serve settings now request) := by
  unfold serve
  split
  · refine like_bind (like_respond.mono ?_)
    rintro r r' ⟨response, rfl, rfl⟩
    exact .done ⟨_, rfl, rfl⟩
  · exact like_respond

end Http

/-! ## Requests -/

namespace Ledger

structure SameButNotes (l l' : Ledger) : Prop where
  store : l.store.SameButNotes l'.store
  settings : l'.settings = l.settings
  now : l'.now = l.now

variable {l l' : Ledger} {f f' : Faults}

theorem SameButNotes.serve (h : l.SameButNotes l') (hf : f.Akin f') (request : Http.Request) :
    Http.SameAnswer (l.serve (.failing f) request).1 (l'.serve (.failing f') request).1 ∧
      (l.serve (.failing f) request).2.SameButNotes (l'.serve (.failing f') request).2 := by
  obtain ⟨s', settings', now'⟩ := l'
  obtain ⟨hstore, rfl, rfl⟩ := h
  have hlike : Like Http.SameAnswer (Http.serve l.settings l.now request)
      (Http.serve l.settings l.now request) := Http.like_serve
  obtain ⟨hanswer, hsessions⟩ := hlike.run hf (Session.lockstep_start hstore)
  exact ⟨hanswer, hsessions.committed, rfl, rfl⟩

theorem SameButNotes.refl (l : Ledger) : l.SameButNotes l := ⟨rfl, rfl, rfl⟩

end Ledger

/-! ## Runs -/

/-- What happens to a ledger while it is served: a request, with its own faults; an edit of an item
of the catalog; the clock is set. -/
inductive Http.Visit where
  | request (faults : Faults) (request : Request)
  | edit (item : Int) (change : Item → Item)
  | clock (now : Moment)

/-- The same happens, but for internal texts. -/
inductive Http.Visit.Akin : Visit → Visit → Prop where
  | request {f f' : Faults} (h : f.Akin f') (r : Request) : Akin (.request f r) (.request f' r)
  | edit (item : Int) (change : Item → Item) : Akin (.edit item change) (.edit item change)
  | clock (now : Moment) : Akin (.clock now) (.clock now)

namespace Ledger

variable {l l' : Ledger}

def answers : Ledger → List Http.Visit → List (Except Failure Http.Response)
  | _, [] => []
  | l, .request faults request :: rest =>
      (l.serve (.failing faults) request).1 ::
        (l.serve (.failing faults) request).2.answers rest
  | l, .edit item change :: rest => (l.editItem item change).2.answers rest
  | l, .clock now :: rest => (l.setClock now).answers rest

theorem SameButNotes.editItem (h : l.SameButNotes l') (item : Int) (change : Item → Item) :
    (l.editItem item change).2.SameButNotes (l'.editItem item change).2 where
  store := by
    simp only [Ledger.editItem, h.store.items]
    exact h.store.withItems _
  settings := h.settings
  now := h.now

theorem SameButNotes.setClock (h : l.SameButNotes l') (now : Moment) :
    (l.setClock now).SameButNotes (l'.setClock now) :=
  ⟨h.store, h.settings, rfl⟩

/-- All requests of a run are answered, and alike if what happens is the same but for texts. -/
theorem SameButNotes.answers (h : l.SameButNotes l') {visits visits' : List Http.Visit}
    (hvisits : List.Forall₂ Http.Visit.Akin visits visits') :
    ∃ responses : List Http.Response,
      l.answers visits = responses.map .ok ∧ l'.answers visits' = responses.map .ok := by
  induction hvisits generalizing l l' with
  | nil => exact ⟨[], rfl, rfl⟩
  | cons hvisit _ ih =>
      cases hvisit with
      | @request f f' hf r =>
          obtain ⟨⟨response, hanswer, hanswer'⟩, hl⟩ := h.serve hf r
          obtain ⟨responses, hrest, hrest'⟩ := ih hl
          refine ⟨response :: responses, ?_, ?_⟩
          · rw [Ledger.answers, hanswer, hrest, List.map_cons]
          · rw [Ledger.answers, hanswer', hrest', List.map_cons]
      | edit item change => exact ih (h.editItem item change)
      | clock now => exact ih (h.setClock now)

end Ledger

/-- **Internal texts stay inside.** Where other texts come with the same failures, a request gets
the same answer, and at most the note of a failed purchase becomes another one. Where the notes
are others, a request gets the same answer too. So the answers of a whole run depend on no text
and on no note. -/
theorem internal_texts_stay_inside :
    (∀ (l : Ledger) (request : Http.Request) (f f' : Faults), f.Akin f' →
      Http.SameAnswer (l.serve (.failing f) request).1 (l.serve (.failing f') request).1 ∧
        (l.serve (.failing f) request).2.store.NoteApart
          (l.serve (.failing f') request).2.store) ∧
    (∀ l l' : Ledger, l.SameButNotes l' → ∀ (request : Http.Request) (f f' : Faults),
      f.Akin f' →
        Http.SameAnswer (l.serve (.failing f) request).1 (l'.serve (.failing f') request).1) ∧
    ∀ l l' : Ledger, l.SameButNotes l' → ∀ visits visits' : List Http.Visit,
      List.Forall₂ Http.Visit.Akin visits visits' →
        ∃ responses : List Http.Response,
          l.answers visits = responses.map .ok ∧ l'.answers visits' = responses.map .ok := by
  refine ⟨?_, ?_, ?_⟩
  · intro l request f f' hf
    obtain ⟨hanswer, hl⟩ := (Ledger.SameButNotes.refl l).serve hf request
    exact ⟨hanswer, hl.store.noteApart (l.notedBy_serve f request) (l.notedBy_serve f' request)⟩
  · intro l l' h request f f' hf
    exact (h.serve hf request).1
  · intro l l' h visits visits' hvisits
    exact h.answers hvisits

/-- The ownership is written but its statement fails, with another text. -/
def Faults.gone : Faults where
  late := (Conditions.ofFaults [⟨.grant, .storage .operational "gone"⟩] []).fault

theorem Faults.lost_akin_gone : Faults.lost.Akin .gone :=
  Faults.akin_named .nil (.cons ⟨rfl, .storage _ _ _⟩ .nil)

theorem Faults.akin_none : Faults.Akin {} {} := ⟨fun _ _ => .none, fun _ _ => .none⟩

/-- The caller's question for the latest transactions. -/
def Http.Request.latest : Http.Request where
  method := "GET"
  target := ⟨["", "api", "v1", "transactions"], []⟩
  headers := [("Authorization", "Bearer key")]

/-- The order fails, and then the caller asks for the latest transactions. -/
def Http.Visit.orderAndLatest (faults : Faults) : List Visit :=
  [.request faults .order, .request {} .latest]

/-- The two orders leave different notes, and nobody can tell which. -/
theorem internal_texts_stay_inside_order :
    Faults.lost.Akin .gone ∧
    (Ledger.counter.serve (.failing .lost) .order).2.store.transactions.map (·.note) ≠
      (Ledger.counter.serve (.failing .gone) .order).2.store.transactions.map (·.note) ∧
    (Http.SameAnswer (Ledger.counter.serve (.failing .lost) .order).1
        (Ledger.counter.serve (.failing .gone) .order).1 ∧
      (Ledger.counter.serve (.failing .lost) .order).2.store.NoteApart
        (Ledger.counter.serve (.failing .gone) .order).2.store) ∧
    Http.SameAnswer
      ((Ledger.counter.serve (.failing .lost) .order).2.serve (.failing {}) .latest).1
      ((Ledger.counter.serve (.failing .gone) .order).2.serve (.failing {}) .latest).1 ∧
    ∃ responses : List Http.Response,
      Ledger.counter.answers (Http.Visit.orderAndLatest .lost) = responses.map .ok ∧
        Ledger.counter.answers (Http.Visit.orderAndLatest .gone) = responses.map .ok := by
  have hakin := Faults.lost_akin_gone
  have hleft := ((Ledger.SameButNotes.refl .counter).serve hakin .order).2
  have hvisits : List.Forall₂ Http.Visit.Akin (Http.Visit.orderAndLatest .lost)
      (Http.Visit.orderAndLatest .gone) :=
    .cons (.request hakin _) (.cons (.request Faults.akin_none _) .nil)
  refine ⟨hakin, by decide +kernel, ?_, ?_, ?_⟩
  · exact internal_texts_stay_inside.1 .counter .order .lost .gone hakin
  · exact internal_texts_stay_inside.2.1 _ _ hleft .latest {} {} Faults.akin_none
  · exact internal_texts_stay_inside.2.2 .counter .counter (.refl _) _ _ hvisits

end Scrip
