import Scrip.Http.Server
import Scrip.Proofs.Service.Reading
import Scrip.Proofs.Work.Run
set_option autoImplicit false

/-! # The statements of a request

What a request asks of the database. The handlers of most routes only read, each in a unit of work;
the three others write (`Route.isWriting`). A property of the statements of all handlers is one of
the statements of every request.
-/

namespace Scrip.Http

open Script

variable {P : Statement → Prop} {settings : Settings} {now : Moment} {request : Request}

theorem asks_withData {α : Type} {data : Except (List Issue) α} {handler : α → Script Response}
    (h : ∀ a, data = .ok a → (handler a).Asks P) : (withData data handler).Asks P := by
  cases data with
  | ok a => exact h a rfl
  | error issues => exact asks_done _

theorem asks_withBody {handler : Body → Script Response} (h : ∀ body, (handler body).Asks P) :
    (withBody request handler).Asks P := by
  unfold withBody
  split
  · exact asks_done _
  · exact asks_done _
  · exact h _

theorem reads_probe : probe.Reads := by
  refine asks_bind (asks_attempt (asks_exec rfl)) fun connected => ?_
  cases connected with
  | error e =>
      dsimp only
      split <;> exact asks_done _
  | ok _ =>
      refine asks_bind (asks_attempt (asks_exec rfl)) fun answered => ?_
      cases answered with
      | error e =>
          dsimp only
          split <;> exact asks_done _
      | ok _ => exact asks_done _

def Route.isWriting : Route → Bool
  | topUp => true
  | purchase _ => true
  | settle _ => true
  | _ => false

section

variable (hP : ∀ q : Statement, q.IsQuiet → P q)

include hP

theorem asks_of_reads {α : Type} {p : Script α} (h : p.Reads) : p.Asks P :=
  h.mono fun q hq => hP q (Or.inl hq)

theorem asks_forCaller {handler : Identity.Caller → Script Response}
    (h : ∀ caller, (handler caller).Asks P) :
    (forCaller settings now request handler).Asks P :=
  asks_unitOfWork hP (asks_bind (asks_of_reads hP (Identity.reads_authenticate _ _ _)) h)

/-- The answer that is made of what was read. -/
theorem asks_answer {α : Type} {p : Script α} (h : p.Reads) (answer : α → Response) :
    (do return answer (← p) : Script Response).Asks P :=
  asks_bind (asks_of_reads hP h) fun _ => asks_done _

theorem asks_preview (account id : Int) : (Checkout.preview account id).Asks P := by
  obtain ⟨work, hwork, hreads⟩ := Checkout.preview_reads account id
  rw [hwork]
  exact asks_unitOfWork hP (asks_of_reads hP hreads)

/-- A property that reading statements and the ends of work have holds of all that such a route
asks. -/
theorem asks_handle {route : Route} (h : route.isWriting = false) :
    (handle settings now request route).Asks P := by
  cases route with
  | topUp => cases h
  | purchase item => cases h
  | settle transaction => cases h
  | liveness => exact asks_done _
  | rates => exact asks_done _
  | readiness => exact asks_answer hP reads_probe _
  | balance =>
      exact asks_forCaller hP fun caller => asks_answer hP (Credits.asks_balance rfl) _
  | owned =>
      exact asks_forCaller hP fun caller => asks_answer hP (Registry.asks_shelf rfl) _
  | eligibility item =>
      exact asks_forCaller hP fun caller => asks_withData fun id _ =>
        asks_bind (asks_preview hP _ id) fun _ => asks_done _
  | download item =>
      exact asks_forCaller hP fun caller => asks_withData fun id _ =>
        asks_answer hP (Registry.asks_download rfl rfl) _
  | transactions =>
      exact asks_forCaller hP fun caller =>
        asks_bind (asks_of_reads hP (Journal.asks_history rfl)) fun _ =>
          asks_bind (asks_done _) fun _ => asks_done _
  | stats =>
      exact asks_forCaller hP fun caller => asks_answer hP (Journal.asks_stats rfl) _
  | recommendations =>
      exact asks_forCaller hP fun caller => asks_withData fun requested _ =>
        asks_answer hP (Suggestions.reads_recommend _ _) _

end

/-! ## All requests -/

theorem asks_respond (h : ∀ route, (handle settings now request route).Asks P) :
    (respond settings now request).Asks P := by
  unfold respond
  split
  · exact asks_done _
  · exact asks_done _
  · exact asks_done _
  · refine asks_bind (asks_attempt (h _)) ?_
    rintro (e | response)
    · dsimp only
      split <;> exact asks_done _
    · exact asks_done _

theorem asks_serve (h : ∀ route, (handle settings now request route).Asks P) :
    (serve settings now request).Asks P := by
  unfold serve
  split
  · exact asks_bind (asks_respond h) fun _ => asks_done _
  · exact asks_respond h

end Scrip.Http
