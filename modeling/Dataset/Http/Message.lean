import Dataset.Gateway
import Dataset.Http.Negotiation
import Dataset.Http.Uri

/-!
# Requests and responses

* `Request` is what the program looks at of a request;
* `Response` is a status, headers sorted by name, and a body, which is not shown where it is coded;
* `Problem` is an answer that says what is wrong: a status, a code and a message.
-/

namespace Dataset.Http

/-! ## 1. Messages -/

/-- The methods that make a difference. -/
inductive Method where
  | get
  | head
  | delete
  | options
  | other
  deriving DecidableEq, Repr

/-- The method of a name. -/
def Method.ofName (s : String) : Method :=
  if s = "GET" then get
  else if s = "HEAD" then head
  else if s = "DELETE" then delete
  else if s = "OPTIONS" then options
  else other

/-- A request. -/
structure Request where
  method : Method
  target : Target
  acceptEncoding : Option String
  deriving DecidableEq, Repr

/-- What is to be answered: a status and, if there is one, a text in JSON. -/
structure Answer where
  status : Nat
  body : Option String
  deriving DecidableEq, Repr

/-- A response. -/
structure Response where
  status : Nat
  headers : List (String × String)
  body : Option String
  deriving DecidableEq, Repr

/-! ## 2. Problems -/

/-- An answer that says what is wrong. -/
structure Problem where
  status : Nat
  code : String
  message : String
  deriving DecidableEq, Repr

namespace Problem

/-- A request that cannot be met as it is. -/
def badRequest (code message : String) : Problem := ⟨400, code, message⟩

/-- The text of a problem. -/
def body (p : Problem) : String :=
  Json.objectText [("error", Json.stringText p.message), ("code", Json.stringText p.code)]

/-- The answer that states a problem. -/
def answer (p : Problem) : Answer := ⟨p.status, some p.body⟩

/-- The problem that a failure of the gateway is; what is wrong with the store is not told, but
    only what the store was wanted for. -/
def ofGateway (storeMessage : String) : Gateway.Error → Problem
  | .filter (.malformed _) => badRequest "INVALID_FILTERS_JSON" "Invalid filters JSON"
  | .filter (.invalid field reason) =>
    badRequest "INVALID_FILTER" (Filter.Error.message (.invalid field reason))
  | .notFound => ⟨404, "NOT_FOUND", "Record not found"⟩
  | .store _ => ⟨500, "INTERNAL", storeMessage⟩

/-- The most bytes that the key of a row may take in a target. -/
def maxKeySize : Nat := 256

/-- A key that is not of an admissible length. -/
def invalidKey : Problem :=
  badRequest "INVALID_ID" ("Invalid id: must be 1-" ++ Text.ofNat maxKeySize ++ " characters")

/-- A key whose bytes are no text. -/
def unreadableKey : Problem :=
  badRequest "PATH_PARSE_ERROR" "Invalid URL: Invalid UTF-8 in \x60id\x60"

/-- A query that gives a parameter twice. -/
def repeatedParameter (name : String) : Problem :=
  badRequest "QUERY_PARSE_ERROR"
    ("Failed to deserialize query string: duplicate field \x60" ++ name ++ "\x60")

/-- Constraints on the parameter `q` that are not met, each with its message if it has one. -/
def constraints (messages : List (Option String)) : Problem :=
  badRequest "VALIDATION_ERROR"
    (Text.joinWith "; " (messages.map fun m => m.getD "q: validation failed"))

end Problem

/-- A text that can be the key of a row in a target. -/
def isKeyText (s : String) : Bool := !s.isEmpty && s.utf8ByteSize ≤ Problem.maxKeySize

/-! ## 3. Responses -/

/-- A body of fewer bytes is not worth coding. -/
def leastCodedSize : Nat := 32

/-- The header that lets every origin read the response. -/
def anyOrigin : String × String := ("access-control-allow-origin", "*")

/-- The headers that describe a body. -/
def bodyHeaders (coding : Coding) (body : Option String) : List (String × String) :=
  match body with
  | none => []
  | some text =>
    (if coding = .gzip && leastCodedSize ≤ text.utf8ByteSize then [("content-encoding", "gzip")]
     else []) ++ [("content-type", "application/json")]

/-- An answer as a response. -/
def Answer.response (a : Answer) (coding : Coding) (withBody : Bool) : Response :=
  let headers := anyOrigin :: bodyHeaders coding a.body
  let coded := headers.any fun h => h.1 == "content-encoding"
  ⟨a.status, headers, if coded then none else some (if withBody then a.body.getD "" else "")⟩

/-- The text of the response to a problem alone, as it is before anything is added to it. -/
def Problem.response (p : Problem) : Response :=
  ⟨p.status, [("content-type", "application/json")], some p.body⟩

end Dataset.Http
