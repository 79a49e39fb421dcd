import Scrip.Http.Message
import Scrip.Http.Route
import Scrip.Request.Body
import Scrip.Service.Checkout
import Scrip.Service.Identity
import Scrip.Service.Suggestions
import Scrip.Service.TopUps
set_option autoImplicit false

/-! # The server

The handlers of the routes, and the answer to a request. A body that is not JSON is answered
before anything else; then the caller must be known, or the token of the administration given;
then the data of the request must be valid; only then is the operation carried out.
-/

namespace Scrip.Http

open Script

/-! ## Data of requests -/

namespace Data

/-- A segment of the path that must be a positive whole number. -/
def pathId (name segment : String) : Except (List Issue) Int :=
  let place := [Step.key "path", Step.key name]
  match Field.wholeText segment with
  | .error c => .error [⟨place, c⟩]
  | .ok n => if 0 < n then .ok n else .error [⟨place, .notPositive⟩]

/-- The requested number of recommendations. -/
def queryLimit (t : Target) : Except (List Issue) (Option Int) :=
  match t.parameter? "limit" with
  | none => .ok none
  | some s =>
    match Field.wholeText s with
    | .ok n => .ok (some n)
    | .error c => .error [⟨[.key "query", .key "limit"], c⟩]

/-- What the fields of a body make. -/
def ofBody {α : Type} (make : List (String × Json) → Except (List Issue) α) :
    Body → Except (List Issue) α
  | .value (.object fields) => (make fields).mapError fun is => is.map (·.inside (.key "body"))
  | .value _ => .error [⟨[.key "body"], .notObject⟩]
  | _ => .error [⟨[.key "body"], .missing⟩]

/-- The answer to a body that is not JSON. -/
def malformed (position : Nat) : Response :=
  .invalid [⟨[.key "body", .index position], .badJson⟩]

end Data

/-- Goes on with valid data; the answer to invalid data are its issues. -/
def withData {α : Type} (data : Except (List Issue) α) (handler : α → Script Response) :
    Script Response :=
  match data with
  | .ok a => handler a
  | .error issues => return .invalid issues

/-! ## The guard of the administration

Settling a top-up needs the token that the settings hold, in a header of the request. Without a
configured token every request is refused. The comparison of the two tokens is made for ASCII
only and crashes on any other text. -/

namespace Guard

def disabled : Refusal := .unauthenticated "Top-up settlement is not enabled"

def badToken : Refusal := .unauthenticated "Bad admin token"

def isAscii (s : String) : Bool := s.toList.all fun c => decide (c.toNat < 0x80)

def sameToken (given configured : String) : Except Failure Bool :=
  if isAscii given && isAscii configured then .ok (given == configured)
  else .error .wrongType

/-- Lets a request with the configured token pass. -/
def check (configured given : Option String) : Except Failure Unit :=
  let configured := configured.getD ""
  let given := given.getD ""
  if configured.isEmpty then .error (.refused disabled)
  else if given.isEmpty then .error (.refused badToken)
  else
    match sameToken given configured with
    | .error e => .error e
    | .ok true => .ok ()
    | .ok false => .error (.refused badToken)

end Guard

/-! ## Handlers -/

/-- The database is reachable, or not, or there is none. -/
def probe : Script (Option Bool) := do
  match ← (exec .connect).attempt with
  | .error e => if e.isCancellation then fail e else return none
  | .ok _ =>
    match ← (exec .ping).attempt with
    | .error e => if e.isCancellation then fail e else return some false
    | .ok _ => return some true

def alive : Response :=
  .json 200 (.object [("status", .text "healthy"), ("service", .text "credit-ledger-api")])

def readyAnswer : Option Bool → Response
  | some true =>
    .json 200 (.object [("status", .text "ready"),
      ("checks", .object [("database", .text "healthy")])])
  | _ =>
    .json 503 (.object [("status", .text "not_ready"),
      ("reason", .text "database_unavailable")])

def ratesAnswer (settings : Settings) : Response :=
  let rates : Money.Rates :=
    ⟨settings.creditsPerUnit, settings.minimumTopupAmount, settings.currency⟩
  .success rates.fields

/-- A list in an answer, with its length. -/
def listed (name : String) (entries : List Json) : List (String × Json) :=
  [(name, .list entries), ("count", .int entries.length)]

def balanceHandler (caller : Identity.Caller) : Script Response := do
  let credits ← Credits.balance caller.account
  return .success [("credits", .int credits), ("account_id", .int caller.account)]

def topUpAnswer (t : Transaction) : Except Failure Response := do
  let money ← Money.display (t.cents.getD 0)
  return .success [
    ("message",
      .text "Top-up request submitted. Credits will be added after verification."),
    ("transaction_id", .int t.id),
    ("credits_requested", .int t.amount),
    ("real_amount", .text money),
    ("status", .text t.status)] 201

def topUpHandler (settings : Settings) (now : Moment) (body : Body)
    (caller : Identity.Caller) : Script Response :=
  withData (Data.ofBody TopUpRequest.ofFields body) fun request => do
    let t ← TopUps.request settings now caller.account (.finite request.amount)
      request.method request.reference
    ofExcept (topUpAnswer t)

def ownedHandler (caller : Identity.Caller) : Script Response := do
  let entries ← Registry.shelf caller.account
  return .success (listed "items" (entries.map (·.view)))

def purchaseHandler (now : Moment) (item : String) (caller : Identity.Caller) :
    Script Response :=
  withData (Data.pathId "item_id" item) fun id => do
    match ← Checkout.purchase now caller.account id with
    | .declined d => fail d.failure
    | .committed _ transaction remaining =>
      return .success [
        ("message", .text "Item purchased successfully!"),
        ("transaction_id", .int transaction),
        ("remaining_credits", .int remaining)]

def eligibilityHandler (item : String) (caller : Identity.Caller) : Script Response :=
  withData (Data.pathId "item_id" item) fun id => do
    let p ← Checkout.preview caller.account id
    return .success p.fields

def downloadHandler (item : String) (caller : Identity.Caller) : Script Response :=
  withData (Data.pathId "item_id" item) fun id => do
    let d ← Registry.download caller.account id
    return .success d.fields

def transactionsHandler (settings : Settings) (caller : Identity.Caller) :
    Script Response := do
  let records ← Journal.history caller.account (some settings.transactionHistoryLimit)
  let views ← ofExcept (records.mapM (·.view))
  return .success (listed "transactions" views)

def statsHandler (now : Moment) (caller : Identity.Caller) : Script Response := do
  let stats ← Journal.stats caller.account (.utc now)
  return .success [("stats", stats.view)]

def recommendationsHandler (settings : Settings) (target : Target)
    (caller : Identity.Caller) : Script Response :=
  withData (Data.queryLimit target) fun requested => do
    let limit := Recommendation.clampLimit requested settings.recommendationDefaultLimit
      settings.recommendationMaxLimit
    let picks ← Suggestions.recommend caller.account limit
    return .success (listed "recommendations" (picks.map (·.view)) ++
      [("account_id", .int caller.account)])

def settleHandler (now : Moment) (transaction : String) (body : Body) : Script Response :=
  let data := Field.both (fun id (s : Settlement) => (id, s.approved))
    (Data.pathId "transaction_id" transaction) (Data.ofBody Settlement.ofFields body)
  withData data fun d => do
    let t ← TopUps.settle now d.1 d.2
    return .success [
      ("transaction_id", .int t.id),
      ("status", .text t.status),
      ("credits", .int t.amount)]

/-! ## Answering -/

/-- A handler for a known caller, in a unit of work. -/
def forCaller (settings : Settings) (now : Moment) (request : Request)
    (handler : Identity.Caller → Script Response) : Script Response := unitOfWork do
  let caller ← Identity.authenticate settings.sessionTtlSeconds now
    (request.header? "authorization")
  handler caller

/-- A handler for the administration, in a unit of work. -/
def forAdmin (settings : Settings) (request : Request) (handler : Script Response) :
    Script Response := do
  ofExcept (Guard.check settings.adminToken (request.header? "x-admin-token"))
  unitOfWork handler

/-- A handler that takes a body, unless the body cannot be read or is not JSON. -/
def withBody (request : Request) (handler : Body → Script Response) : Script Response :=
  match request.data with
  | .malformed position => return Data.malformed position
  | .unreadable => return .unreadable
  | body => handler body

def handle (settings : Settings) (now : Moment) (request : Request) : Route → Script Response
  | .liveness => return alive
  | .readiness => do return readyAnswer (← probe)
  | .rates => return ratesAnswer settings
  | .balance => forCaller settings now request balanceHandler
  | .topUp => withBody request fun body =>
      forCaller settings now request (topUpHandler settings now body)
  | .owned => forCaller settings now request ownedHandler
  | .purchase item => forCaller settings now request (purchaseHandler now item)
  | .eligibility item => forCaller settings now request (eligibilityHandler item)
  | .download item => forCaller settings now request (downloadHandler item)
  | .transactions => forCaller settings now request (transactionsHandler settings)
  | .stats => forCaller settings now request (statsHandler now)
  | .recommendations =>
      forCaller settings now request (recommendationsHandler settings request.target)
  | .settle transaction => withBody request fun body =>
      forAdmin settings request (settleHandler now transaction body)

/-- The complete answer to a request. Only a cancellation ends it without one. -/
def respond (settings : Settings) (now : Moment) (request : Request) : Script Response := do
  match Route.find request.method request.target.segments with
  | .unknownPath => return .notFound
  | .otherPath => return .redirect
  | .wrongMethod => return .notAllowed
  | .route r =>
    match ← (handle settings now request r).attempt with
    | .ok response => return response
    | .error e => if e.isCancellation then fail e else return .ofFailure now e

/-- The answer to a request. One to the method `HEAD` comes without its body. -/
def serve (settings : Settings) (now : Moment) (request : Request) : Script Response :=
  if request.method = "HEAD" then Response.bodiless <$> respond settings now request
  else respond settings now request

end Scrip.Http
