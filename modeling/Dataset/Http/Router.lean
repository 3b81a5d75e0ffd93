import Dataset.Http.Description
import Dataset.Http.Message

/-!
# Endpoints

* `Endpoint.ofPath?` finds the endpoint of a path; paths are compared as they are written;
* `Endpoint.answer` meets a request: every endpoint can be got, rows can be deleted too;
* `respond` gives the response to a request, and the store behind it.

A request for the options of a path is always met. One with a method that its endpoint lacks is
told the methods it has; one for a path without an endpoint is answered with nothing.
-/

namespace Dataset.Http

/-! ## 1. Endpoints -/

/-- What can be addressed; a row by its key as it is written. -/
inductive Endpoint where
  | health
  | description
  | rows
  | row (segment : List Char)
  deriving DecidableEq, Repr

namespace Endpoint

/-- Where the rows are. -/
def rowsPath : List Char := ['/', 'a', 'p', 'i', '/', 'd', 'a', 't', 'a']

/-- The part of a path behind that of all rows. -/
def rowSegment? (path : List Char) : Option (List Char) :=
  if (rowsPath ++ ['/']).isPrefixOf path then some (path.drop (rowsPath.length + 1)) else none

/-- The endpoint of a path. -/
def ofPath? (path : List Char) : Option Endpoint :=
  if path = "/api/health".toList then some health
  else if path = "/api/openapi.json".toList then some description
  else if path = rowsPath then some rows
  else
    match rowSegment? path with
    | none => none
    | some s => if s.isEmpty || s.contains '/' then none else some (row s)

/-- The methods of an endpoint, as they are told. -/
def allowed : Endpoint → String
  | row _ => "GET,HEAD,DELETE"
  | _ => "GET,HEAD"

end Endpoint

/-! ## 2. Answers -/

/-- The answer about the state of the service. -/
def healthAnswer (s : Store) : Answer :=
  let body := fun status database => Json.objectText
    [("status", Json.stringText status), ("version", Json.stringText version),
     ("database", Json.stringText database)]
  if s.isOpen then ⟨200, some (body "ok" "ok")⟩ else ⟨503, some (body "degraded" "unavailable")⟩

/-- A parameter of a query, which may be given once. -/
def parameter? (pairs : List (String × String)) (name : String) : Option String :=
  (pairs.find? (·.1 == name)).map Prod.snd

/-- The name that is given a second time first, of those that may be given once. -/
def repeated? (seen : List String) : List (String × String) → Option String
  | [] => none
  | (name, _) :: rest =>
    if seen.contains name then some name
    else repeated? (if ["filters", "q"].contains name then name :: seen else seen) rest

/-- The rows that a query asks for. -/
def rowsAnswer (s : Store) (table : String) (query : Option (List Char)) : Answer :=
  let pairs := formPairs (query.getD [])
  match repeated? [] pairs with
  | some name => (Problem.repeatedParameter name).answer
  | none =>
    match Gateway.list s table (parameter? pairs "filters") (parameter? pairs "q") with
    | .ok rows => ⟨200, some (Json.arrayText (rows.map Row.jsonText))⟩
    | .error e => (Problem.ofGateway "Database query failed" e).answer

/-- The key that a segment stands for. -/
def keyOf (segment : List Char) : Except Problem String :=
  match Text.Utf8.decode? (percentDecode segment) with
  | none => .error Problem.unreadableKey
  | some cs =>
    if isKeyText (String.ofList cs) then .ok (String.ofList cs) else .error Problem.invalidKey

/-- The row of a key. -/
def rowAnswer (s : Store) (table : String) (segment : List Char) : Answer :=
  match keyOf segment with
  | .error p => p.answer
  | .ok id =>
    match Gateway.get s table id with
    | .ok row => ⟨200, some row.jsonText⟩
    | .error e => (Problem.ofGateway "Failed to fetch data by ID" e).answer

/-- The removal of the row of a key. -/
def deleteAnswer (s : Store) (table : String) (segment : List Char) : Answer × Store :=
  match keyOf segment with
  | .error p => (p.answer, s)
  | .ok id =>
    match Gateway.delete s table id with
    | .ok s => (⟨200, some (Json.objectText [("success", "true")])⟩, s)
    | .error e => ((Problem.ofGateway "Failed to delete record" e).answer, s)

/-- What an endpoint answers when it is got. -/
def Endpoint.answer (s : Store) (table : String) (query : Option (List Char)) :
    Endpoint → Answer
  | .health => healthAnswer s
  | .description => ⟨200, some Description.document.text⟩
  | .rows => rowsAnswer s table query
  | .row segment => rowAnswer s table segment

/-! ## 3. Responses -/

/-- The header that tells the methods of an endpoint. -/
def allowHeader (e : Endpoint) : String × String := ("allow", e.allowed)

/-- The response to a request for the options of a path. -/
def optionsResponse (endpoint : Option Endpoint) : Response :=
  ⟨200, [("access-control-allow-headers", "content-type,accept,origin"),
    ("access-control-allow-methods", "GET,DELETE,OPTIONS"), anyOrigin]
    ++ (endpoint.map allowHeader).toList, some ""⟩

/-- The response where there is no endpoint. -/
def missingResponse : Response := ⟨404, [anyOrigin], some ""⟩

/-- The response to a method that the endpoint lacks. -/
def refusedResponse (e : Endpoint) : Response := ⟨405, [anyOrigin, allowHeader e], some ""⟩

/-- The response of an endpoint to a method. -/
def endpointResponse (s : Store) (table : String) (r : Request) (e : Endpoint) :
    Response × Store :=
  let coding := accepted r.acceptEncoding
  match r.method, e with
  | .get, e => ((e.answer s table r.target.query).response coding true, s)
  | .head, e => ((e.answer s table r.target.query).response coding false, s)
  | .delete, .row segment =>
    let a := deleteAnswer s table segment
    (a.1.response coding true, a.2)
  | _, e => (refusedResponse e, s)

/-- The response to a request, and the store behind it. -/
def respond (s : Store) (table : String) (r : Request) : Response × Store :=
  match r.method, Endpoint.ofPath? r.target.path with
  | .options, e => (optionsResponse e, s)
  | _, none => (missingResponse, s)
  | _, some e => endpointResponse s table r e

end Dataset.Http
