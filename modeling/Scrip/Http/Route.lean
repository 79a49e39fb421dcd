import Scrip.Http.Target
set_option autoImplicit false

/-! # Routes

The paths of the service, all under `/api/v1`, and the methods that each has. A segment that
names an item or a transaction is any text that is not empty; whether it is a number is for
the handler to say. A line break at the end of a path does not count, unless it belongs to such
a segment. A path that would lead somewhere with a slash more at its end, or without those at its
end, is not the right one, but leads to it.
-/

namespace Scrip.Http

/-- What a request may ask for. -/
inductive Route where
  | liveness
  | readiness
  | balance
  | topUp
  | rates
  | owned
  | purchase (item : String)
  | eligibility (item : String)
  | download (item : String)
  | transactions
  | stats
  | recommendations
  | settle (transaction : String)
deriving DecidableEq, Repr

namespace Route

/-- The routes of a segment that must not be empty. -/
def unlessEmpty (segment : String) (routes : List (String × Route)) : List (String × Route) :=
  if segment.isEmpty then [] else routes

/-- The methods and routes of a path under the common start. -/
def atPath : List String → List (String × Route)
  | ["health", ""] => [("GET", liveness)]
  | ["health", "ready"] => [("GET", readiness)]
  | ["credits"] => [("GET", balance)]
  | ["credits", "top-up"] => [("POST", topUp)]
  | ["credits", "rates"] => [("GET", rates)]
  | ["purchases", item] =>
    unlessEmpty item
      ((if item = "owned" then [("GET", owned)] else []) ++ [("POST", purchase item)])
  | ["purchases", item, "eligibility"] => unlessEmpty item [("GET", eligibility item)]
  | ["purchases", item, "download"] => unlessEmpty item [("GET", download item)]
  | ["transactions"] => [("GET", transactions)]
  | ["transactions", "stats"] => [("GET", stats)]
  | ["recommendations"] => [("GET", recommendations)]
  | ["admin", "top-ups", id, "settle"] => unlessEmpty id [("POST", settle id)]
  | _ => []

/-- The methods and routes of a path that starts at the root. -/
def atRoot : List String → List (String × Route)
  | "" :: "api" :: "v1" :: rest => atPath rest
  | _ => []

/-- Whether the last segment of the path of a route is free. -/
def endsFree : Route → Bool
  | purchase _ => true
  | _ => false

/-- A path without a line break at the end of its last segment, if there is one. -/
def withoutBreak (segments : List String) : Option (List String) :=
  let last := ((segments.getLast?).getD "").toList
  if last.getLast? = some '\n' then some (segments.dropLast ++ [String.ofList last.dropLast])
  else none

/-- The methods and routes of a path. -/
def atSegments (segments : List String) : List (String × Route) :=
  let bare := match withoutBreak segments with
    | none => []
    | some s => (atRoot s).filter (!·.2.endsFree)
  bare ++ atRoot segments

/-- The other way to end a path: without slashes, or with one. -/
def otherEnd (segments : List String) : List String :=
  if segments.getLast? = some "" then
    (segments.reverse.dropWhile (·.isEmpty)).reverse
  else
    segments ++ [""]

/-- What a method and a path lead to. -/
inductive Found where
  | unknownPath
  | otherPath
  | wrongMethod
  | route (r : Route)
deriving DecidableEq, Repr

def find (method : String) (segments : List String) : Found :=
  match atSegments segments with
  | [] => if (atSegments (otherEnd segments)).isEmpty then .unknownPath else .otherPath
  | routes =>
    match routes.find? (·.1 == method) with
    | some r => .route r.2
    | none => .wrongMethod

end Route

end Scrip.Http
