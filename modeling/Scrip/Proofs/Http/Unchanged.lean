import Scrip.Ledger
import Scrip.Proofs.Http.Asks
import Scrip.Proofs.Ledger.Purchase
import Scrip.Proofs.Money
import Scrip.Proofs.Service.TopUps
import Scrip.Proofs.Work.Ending
set_option autoImplicit false

/-! # A request that fails changes nothing

Whatever statements fail under a request, if its answer is not a success then the store is what it
was. The one exception is a purchase that is declined without detail: it may have left the note of
its failure in the log. Every handler runs in a unit of work, so what counts is what its work has
committed when it succeeds and when it does not (`Leaves`).

What has been committed is not taken back, so a session whose close fails after that is the end of
a request that has failed all the same; nor are the changes of other sessions undone.
-/

namespace Scrip

open Script

/-! ## Purchases in a unit of work -/

/-- What a purchase leaves of a store by its result: only one that is declined without detail may
have changed it without being committed, and then it has left a note. -/
def Checkout.Leaves (account id : Int) (s : Store) (r : Except Failure Purchase.Outcome)
    (s' : Store) : Prop :=
  match r with
  | .ok (.committed _ _ _) => True
  | .ok (.declined d) => s' = s ∨ (d.reason = .internalError ∧ IsNoSale account id s s')
  | .error _ => s' = s

variable {f : Faults} {s s' : Store} {st : Session} {now : Moment}

theorem Deeds.same {ds : List (Store × List Write)} (h : Deeds s ds s') (hnone : ds = []) :
    s' = s := by
  subst hnone
  exact h.eq_of_nil

theorem Checkout.ends_purchase (hf : f.SparesClose) (hst : st.Fresh f s) (account id : Int) :
    Ends (.failing f) (Checkout.purchase now account id)
      (fun r st' => Checkout.Leaves account id s r st'.committed) st := by
  refine ends_unitOfWork hf (fun _ => rfl) hst fun st' hst' => ?_
  refine ((Checkout.safe_buy s).ends hst').mono ?_
  rintro r st'' ⟨ds, hbought, hds⟩
  match r, hbought with
  | .ok (.committed i t left), _ => trivial
  | .ok (.declined d), Or.inl hnone => exact Or.inl (hds.same hnone)
  | .ok (.declined d), Or.inr ⟨hreason, hnoted⟩ => exact Or.inr ⟨hreason, hnoted.isNoSale hds⟩
  | .error e, hnone => exact Or.inl (hds.same hnone)

namespace Http

variable {settings : Settings} {request : Request} {noted : Store → Prop}

/-! ## Handlers in a unit of work -/

/-- A failure after a note was left: one without detail, or whatever a rollback has ended in. -/
def IsLeftBy (f : Faults) (e : Failure) : Prop :=
  e = .refused .purchaseFailed ∨ ∀ r, e = .refused r → f.Refuses r

/-- What a handler leaves of a store: if it fails nothing has changed, unless it has left a note. -/
def Leaves (f : Faults) (s : Store) (noted : Store → Prop) (r : Except Failure Response)
    (s' : Store) : Prop :=
  match r with
  | .ok response => response.status < 400 ∨ s' = s
  | .error e => s' = s ∨ (noted s' ∧ IsLeftBy f e)

theorem leaves_same (f : Faults) (r : Except Failure Response) : Leaves f s noted r s := by
  cases r with
  | ok response => exact Or.inr rfl
  | error e => exact Or.inl rfl

theorem ends_ownUnit (hf : f.SparesClose) (hst : st.Fresh f s) {work : Script Response}
    (hwork : ∀ st', st'.Fresh f s →
      Ends (.failing f) work
        (fun r st'' => Concludes f s (Leaves f s noted) r st''.committed) st') :
    Ends (.failing f) (unitOfWork work) (fun r st' => Leaves f s noted r st'.committed) st :=
  ends_unitOfWork hf (fun e => leaves_same f (.error e)) hst hwork

/-- A handler for a known caller: the look-up of the caller changes nothing. -/
theorem ends_forCaller (hf : f.SparesClose) (hst : st.Fresh f s)
    {handler : Identity.Caller → Script Response}
    (hhandler : ∀ caller st', st'.Fresh f s → Ends (.failing f) (handler caller)
      (fun r st'' => Concludes f s (Leaves f s noted) r st''.committed) st') :
    Ends (.failing f) (forCaller settings now request handler)
      (fun r st' => Leaves f s noted r st'.committed) st := by
  refine ends_ownUnit hf hst fun st' hst' => ends_bind ?_
  refine ((Identity.reads_authenticate _ _ _).ends_fresh hst').mono ?_
  rintro (e | caller) st₁ hst₁
  · exact Or.inl hst₁.store
  · exact hhandler caller st₁ hst₁

/-- A handler that gets valid data; the answer to other data changes nothing. -/
theorem ends_withData {α : Type} {data : Except (List Issue) α} {handler : α → Script Response}
    (hst : st.Fresh f s) (hhandler : ∀ a, data = .ok a → Ends (.failing f) (handler a)
      (fun r st' => Concludes f s (Leaves f s noted) r st'.committed) st) :
    Ends (.failing f) (withData data handler)
      (fun r st' => Concludes f s (Leaves f s noted) r st'.committed) st := by
  cases data with
  | ok a => exact hhandler a rfl
  | error issues => exact Or.inr hst.store

/-! ## The handlers that write -/

/-- A recorded request can always be answered: its cents are those of an amount. -/
theorem topUpAnswer_isOk (now : Moment) {amount : Amount} {account credits cents id : Int}
    {method : String} {reference : Option String}
    (h : TopUps.quote settings amount = .ok (cents, credits)) :
    ∃ response, topUpAnswer ((Journal.topUpDraft account credits cents method reference
      now).row id) = .ok response ∧ response.status = 201 := by
  obtain ⟨c, hcents, h⟩ := Failure.bind_eq_ok.mp h
  obtain ⟨_, -, h⟩ := Failure.bind_eq_ok.mp h
  dsimp only at h
  split at h
  · cases h
  · obtain ⟨rfl, -⟩ := Prod.mk.inj (Except.ok.inj h)
    obtain ⟨text, htext⟩ := Money.display_isOk (Money.count_of_cents hcents)
    exact ⟨_, Failure.bind_eq_ok.mpr ⟨text, htext, rfl⟩, rfl⟩

theorem ends_topUpHandler (hst : st.Fresh f s) (body : Body) (caller : Identity.Caller) :
    Ends (.failing f) (topUpHandler settings now body caller)
      (fun r st' => Concludes f s (Leaves f s noted) r st'.committed) st := by
  refine ends_withData hst fun data _ => ends_bind ?_
  -- besides what was written, the row itself counts, for the answer must be one for such a row
  have hsafe : (TopUps.request settings now caller.account (.finite data.amount) data.method
      data.reference).Safe (Strikes f) (fun r c => (∀ e, r = .error e → c.deeds = []) ∧
        ∀ row, r = .ok row → ∃ cents credits,
          TopUps.quote settings (.finite data.amount) = .ok (cents, credits) ∧
          row = (Journal.topUpDraft caller.account credits cents data.method data.reference
            now).row row.id) (.fresh s) := by
    refine (TopUps.safe_request s).mono ?_
    rintro (e | row) c hc
    · exact ⟨fun _ _ => hc, fun _ h => (by cases h)⟩
    · obtain ⟨-, -, cents, credits, hquote, hrow, -⟩ := hc
      refine ⟨fun _ h => (by cases h), fun _ h => ?_⟩
      obtain rfl := Except.ok.inj h
      exact ⟨cents, credits, hquote, hrow⟩
  refine (hsafe.ends (P := fun r ds => (∀ e, r = .error e → ds = []) ∧ _) hst).mono ?_
  rintro (e | row) st' ⟨ds, ⟨hidle, hdraft⟩, hds⟩
  · exact Or.inl (hds.same (hidle e rfl))
  · obtain ⟨cents, credits, hquote, hrow⟩ := hdraft row rfl
    obtain ⟨response, hanswer, hstatus⟩ := topUpAnswer_isOk now hquote
    show Concludes f s (Leaves f s noted) (topUpAnswer row) st'.committed
    rw [hrow, hanswer]
    exact Or.inl (by omega)

/-- A top-up that is settled is answered with success. -/
theorem ends_settleHandler (hst : st.Fresh f s) (transaction : String) (body : Body) :
    Ends (.failing f) (settleHandler now transaction body)
      (fun r st' => Concludes f s (Leaves f s noted) r st'.committed) st := by
  refine ends_withData hst fun data _ => ends_bind ?_
  have hsafe : (TopUps.settle now data.1 data.2).Safe (Strikes f)
      (fun r c => ∀ e, r = .error e → c.deeds = []) (.fresh s) := by
    refine (TopUps.safe_settle s).mono ?_
    rintro (e | row) c hc
    · exact fun _ _ => hc
    · exact fun _ h => (by cases h)
  refine (hsafe.ends (P := fun r ds => ∀ e, r = .error e → ds = []) hst).mono ?_
  rintro (e | row) st' ⟨ds, hidle, hds⟩
  · exact Or.inl (hds.same (hidle e rfl))
  · exact Or.inl (show (200 : Nat) < 400 by decide)

/-- What a failed request may leave of a store: the note of a purchase that the route asks for. -/
def Noted (route : Route) (s s' : Store) : Prop :=
  ∃ item account id, route = .purchase item ∧ Data.pathId "item_id" item = .ok id ∧
    IsNoSale account id s s'

/-- The note is committed before the decline leaves the handler. -/
theorem ends_purchaseHandler (hf : f.SparesClose) (hst : st.Fresh f s) (item : String)
    (caller : Identity.Caller) :
    Ends (.failing f) (purchaseHandler now item caller)
      (fun r st' => Concludes f s (Leaves f s (Noted (.purchase item) s)) r st'.committed) st := by
  refine ends_withData hst fun id hid => ends_bind ?_
  refine (Checkout.ends_purchase hf hst caller.account id).mono ?_
  rintro (e | outcome) st' hleft
  · exact Or.inl hleft
  · match outcome, hleft with
    | .committed i t left, _ => exact Or.inl (show (200 : Nat) < 400 by decide)
    | .declined d, Or.inl hsame => exact Or.inl hsame
    | .declined d, Or.inr ⟨hreason, hnoSale⟩ =>
        have hnoted : Noted (.purchase item) s st'.committed :=
          ⟨item, caller.account, id, rfl, hid, hnoSale⟩
        have hfailure : d.failure = .refused .purchaseFailed := by
          rw [Purchase.Decline.failure, Purchase.Decline.refusal, hreason]
        -- the note was committed, so a failing rollback leaves it as well
        refine Or.inr ⟨.purchaseFailed, hfailure, Or.inr ⟨hnoted, Or.inl rfl⟩, ?_⟩
        exact fun e' hrollback => Or.inr ⟨hnoted, Or.inr hrollback⟩

/-! ## All handlers -/

/-- A handler that asks for no commit changes nothing. -/
theorem ends_neverCommits (hst : st.Fresh f s) {p : Script Response} (h : p.NeverCommits) :
    Ends (.failing f) p (fun r st' => Leaves f s noted r st'.committed) st := by
  refine h.ends.mono fun r st' hsame => ?_
  rw [hsame.trans hst.store]
  exact leaves_same f r

theorem neverCommits_handle {route : Route} (h : route.isWriting = false) :
    (handle settings now request route).NeverCommits :=
  asks_handle (fun _ hq => hq.ne_commit) h

theorem ends_withBody (hst : st.Fresh f s) {handler : Body → Script Response}
    (hhandler : ∀ body, Ends (.failing f) (handler body)
      (fun r st' => Leaves f s noted r st'.committed) st) :
    Ends (.failing f) (withBody request handler)
      (fun r st' => Leaves f s noted r st'.committed) st := by
  unfold withBody
  split
  · exact Or.inr hst.store
  · exact Or.inr hst.store
  · exact hhandler _

/-- What the handler of a route leaves of a store. -/
theorem ends_handle (hf : f.SparesClose) (hst : st.Fresh f s) (route : Route) :
    Ends (.failing f) (handle settings now request route)
      (fun r st' => Leaves f s (Noted route s) r st'.committed) st := by
  cases route with
  | topUp =>
      exact ends_withBody hst fun body =>
        ends_forCaller hf hst fun caller st' hst' => ends_topUpHandler hst' body caller
  | purchase item =>
      exact ends_forCaller hf hst fun caller st' hst' =>
        ends_purchaseHandler hf hst' item caller
  | settle transaction =>
      -- the token is checked before a session is opened
      refine ends_withBody hst fun body => ends_bind ?_
      cases hcheck : Guard.check settings.adminToken (request.header? "x-admin-token") with
      | error e => exact Or.inl hst.store
      | ok _ =>
          exact ends_ownUnit hf hst fun st' hst' => ends_settleHandler hst' transaction body
  | _ => exact ends_neverCommits hst (neverCommits_handle rfl)

/-! ## Answers -/

/-- The code in the error of a response. -/
def Response.HasCode (response : Response) (code : String) : Prop :=
  ((response.body.bind (·.field? "error")).bind (·.field? "code")) = some (.text code)

/-- The answer tells callers nothing, or is the refusal that a rollback has ended in. -/
def Response.IsLeftBy (f : Faults) (now : Moment) (response : Response) : Prop :=
  (response.status = 500 ∧ response.HasCode "INTERNAL_ERROR") ∨
    ∃ r, f.Refuses r ∧ response = .ofFailure now (.refused r)

theorem ofFailure_isLeftBy (now : Moment) {e : Failure} (h : IsLeftBy f e) :
    (Response.ofFailure now e).IsLeftBy f now := by
  cases e with
  | refused r =>
      rcases h with h | h
      · obtain rfl := Failure.refused.inj h
        exact Or.inl ⟨rfl, rfl⟩
      · exact Or.inr ⟨r, h r rfl, rfl⟩
  | storage fault message => exact Or.inl ⟨rfl, rfl⟩
  | crash kind message => exact Or.inl ⟨rfl, rfl⟩

/-- What the answer to a request says of the stores before and after it. -/
def Answered (f : Faults) (now : Moment) (found : Route.Found) (s : Store)
    (r : Except Failure Response) (s' : Store) : Prop :=
  match r with
  | .ok response => response.status < 400 ∨ s' = s ∨ ∃ route, found = .route route ∧
      Noted route s s' ∧ response.IsLeftBy f now
  | .error _ => True

/-- The answer to a failure tells which failure it was, as far as the store is concerned. -/
theorem ends_respond (hf : f.SparesClose) (hst : st.Fresh f s) :
    Ends (.failing f) (respond settings now request)
      (fun r st' => Answered f now (Route.find request.method request.target.segments) s r
        st'.committed) st := by
  unfold respond
  split
  · exact Or.inr (Or.inl hst.store)
  · exact Or.inr (Or.inl hst.store)
  · exact Or.inr (Or.inl hst.store)
  · rename_i route hfound
    refine ends_bind (ends_attempt ((ends_handle hf hst route).mono ?_))
    rintro (e | response) st' hleft
    · dsimp only [GoesOn]
      -- a request that is cancelled is not answered
      split
      · trivial
      · rcases hleft with hsame | ⟨hnoted, hleftBy⟩
        · exact Or.inr (Or.inl hsame)
        · exact Or.inr (Or.inr ⟨route, hfound, hnoted, ofFailure_isLeftBy now hleftBy⟩)
    · exact hleft.imp_right Or.inl

/-! ## Requests for a header alone -/

theorem Route.method_of_mem_atPath {path : List String} {method item : String}
    (h : (method, purchase item) ∈ atPath path) : method = "POST" := by
  unfold atPath at h
  split at h <;> grind [unlessEmpty]

theorem Route.method_of_mem_atSegments {segments : List String} {method item : String}
    (h : (method, purchase item) ∈ atSegments segments) : method = "POST" := by
  have hroot : ∀ path, (method, purchase item) ∈ atRoot path → method = "POST" := by
    intro path hpath
    unfold atRoot at hpath
    split at hpath
    · exact method_of_mem_atPath hpath
    · cases hpath
  rcases List.mem_append.mp h with hbare | hpath
  · split at hbare
    · cases hbare
    · exact hroot _ (List.mem_of_mem_filter hbare)
  · exact hroot segments hpath

/-- A purchase is asked for by one method only. -/
theorem Route.method_of_find {method item : String} {segments : List String}
    (h : find method segments = .route (purchase item)) : method = "POST" := by
  unfold find at h
  split at h
  · split at h <;> cases h
  · split at h
    · rename_i r hr
      have hmethod : r.1 = method := by simpa using List.find?_some hr
      have hroute : r.2 = purchase item := Found.route.inj h
      have hmem : (method, purchase item) ∈ atSegments segments := by
        rw [← hmethod, ← hroute]
        exact List.mem_of_find?_eq_some hr
      exact method_of_mem_atSegments hmem
    · cases h

theorem ends_serve (hf : f.SparesClose) (hst : st.Fresh f s) :
    Ends (.failing f) (serve settings now request)
      (fun r st' => Answered f now (Route.find request.method request.target.segments) s r
        st'.committed) st := by
  unfold serve
  split
  · rename_i hhead
    refine ends_bind ((ends_respond hf hst).mono ?_)
    rintro (e | response) st' hkept
    · trivial
    · -- only a purchase leaves a note, and none is made by a request for a header
      refine hkept.imp_right (Or.imp_right ?_)
      rintro ⟨route, hfound, ⟨item, account, id, rfl, -⟩, -⟩
      exact absurd ((Route.method_of_find hfound).symm.trans hhead) (by decide)
  · exact ends_respond hf hst

end Http

/-- **A request that fails changes nothing.** Any statements may fail in its course, early or late,
but the close of the session after something was committed. A purchase may have left the note of its
failure; then the answer tells nothing, unless a rollback ends in a refusal of its own. -/
theorem failed_request_changes_nothing (l : Ledger) (request : Http.Request) {f : Faults}
    (hf : f.SparesClose) {response : Http.Response}
    (h : (l.serve (.failing f) request).1 = .ok response) (hstatus : 400 ≤ response.status) :
    (l.serve (.failing f) request).2.store = l.store ∨
      ∃ item account id,
        Http.Route.find request.method request.target.segments = .route (.purchase item) ∧
        Http.Data.pathId "item_id" item = .ok id ∧
        IsNoSale account id l.store (l.serve (.failing f) request).2.store ∧
        ((response.status = 500 ∧ response.HasCode "INTERNAL_ERROR") ∨
          ∃ r, f.Refuses r ∧ response = .ofFailure l.now (.refused r)) := by
  have hanswered : Http.Answered f l.now
      (Http.Route.find request.method request.target.segments) l.store
      (l.serve (.failing f) request).1 (l.serve (.failing f) request).2.store :=
    Http.ends_serve hf (Session.Fresh.start f l.store)
  rw [h] at hanswered
  rcases hanswered with hfine | hsame | ⟨route, hfound, hnoted, hleftBy⟩
  · omega
  · exact Or.inl hsame
  · obtain ⟨item, account, id, rfl, hid, hnoSale⟩ := hnoted
    exact Or.inr ⟨item, account, id, hfound, hid, hnoSale, hleftBy⟩

/-- A ledger with one caller and one item that the caller can afford. -/
def Ledger.counter : Ledger :=
  { Ledger.stall with store := { Ledger.stall.store with logins := [⟨"key", 1, 0⟩] } }

/-- The caller's order of the item. -/
def Http.Request.order : Http.Request where
  method := "POST"
  target := ⟨["", "api", "v1", "purchases", "7"], []⟩
  headers := [("Authorization", "Bearer key")]

/-- The ownership is written but its statement fails. -/
def Faults.lost : Faults where
  late := (Conditions.ofFaults [⟨.grant, .storage .operational "lost"⟩] []).fault

/-- The order fails without detail, and the log has the note of it. -/
theorem failed_request_changes_nothing_order :
    ∃ response,
      Faults.lost.SparesClose ∧
      (Ledger.counter.serve (.failing .lost) .order).1 = .ok response ∧ 400 ≤ response.status ∧
      (Ledger.counter.serve (.failing .lost) .order).2.store.transactions ≠ [] ∧
      ((Ledger.counter.serve (.failing .lost) .order).2.store = Ledger.counter.store ∨
        ∃ item account id,
          Http.Route.find Http.Request.order.method Http.Request.order.target.segments =
            .route (.purchase item) ∧
          Http.Data.pathId "item_id" item = .ok id ∧
          IsNoSale account id Ledger.counter.store
            (Ledger.counter.serve (.failing .lost) .order).2.store ∧
          ((response.status = 500 ∧ response.HasCode "INTERNAL_ERROR") ∨
            ∃ r, Faults.lost.Refuses r ∧
              response = .ofFailure Ledger.counter.now (.refused r))) := by
  have hspares : Faults.lost.SparesClose :=
    Faults.sparesClose_named [] [⟨.grant, .storage .operational "lost"⟩]
  have hlog : (Ledger.counter.serve (.failing .lost) .order).2.store.transactions ≠ [] := by
    decide +kernel
  have hanswer : (Ledger.counter.serve (.failing .lost) .order).1.toOption.map (·.status) =
      some 500 := by decide +kernel
  cases h : (Ledger.counter.serve (.failing .lost) .order).1 with
  | error e =>
      rw [h] at hanswer
      cases hanswer
  | ok response =>
      rw [h] at hanswer
      have hstatus : 400 ≤ response.status := by
        have : response.status = 500 := Option.some.inj hanswer
        omega
      exact ⟨response, hspares, rfl, hstatus, hlog,
        failed_request_changes_nothing Ledger.counter .order hspares h hstatus⟩

/-- The connection is lost after a commit, so the session cannot be closed. -/
def Faults.unclosed : Faults where
  early before q :=
    if q = .close ∧ .commit ∈ before then some (.storage .operational "lost") else none

/-- The ownership is not written, and once the note of that is committed a rollback is refused. -/
def Faults.overruled : Faults where
  early before q :=
    if q = .rollback ∧ .commit ∈ before then some (.refused (.itemUnavailable 7)) else none
  late := Faults.lost.late

/-- The status of the answer to the order under some conditions, the balance of the caller, and
the numbers of transactions and ownerships afterwards. -/
def Ledger.afterOrder (c : Conditions) : Option Nat × Option Int × Nat × Nat :=
  let (answer, l) := Ledger.counter.serve c .order
  (answer.toOption.map (·.status), l.store.balance? 1, l.store.transactions.length,
    l.store.ownerships.length)

/-- Where a failed request has changed the store: the close of the session has failed after the
sale, a rollback was refused after the note, and another session has taken the credits. -/
theorem failed_request_changes_store :
    Ledger.counter.store.balance? 1 = some 10 ∧
      Ledger.counter.store.transactions = [] ∧ Ledger.counter.store.ownerships = [] ∧
      Ledger.afterOrder (.failing .unclosed) = (some 500, some 6, 1, 1) ∧
      Ledger.afterOrder (.failing .overruled) = (some 404, some 10, 1, 0) ∧
      Ledger.afterOrder (.ofFaults [] [.setBalance 3]) = (some 400, some 3, 0, 0) := by
  decide +kernel

end Scrip
