import Dataset.About
import Dataset.Json.Basic

/-!
# The description of the interface

The program describes its own interface in the form of OpenAPI 3.1: the endpoints with their
parameters and responses, and the shapes of bodies. `description` is that document.
-/

namespace Dataset.Http.Description

/-! ## 1. Parts -/

/-- A string in the document. -/
def str (s : String) : Json := .string s

/-- A list of strings. -/
def strs (ss : List String) : Json := .array (ss.map str)

/-- A reference to the shape of a name. -/
def shapeRef (name : String) : Json := .object [("$ref", str ("#/components/schemas/" ++ name))]

/-- The shape of texts. -/
def textShape : Json := .object [("type", str "string")]

/-- A response of a status, with the shape of its body if one is told. -/
def response (status text : String) (shape : Option String) : String × Json :=
  (status, .object (("description", str text) :: match shape with
    | none => []
    | some name =>
      [("content", .object
        [("application/json", .object [("schema", shapeRef name)])])]))

/-- A parameter of texts. -/
def parameter (name place text : String) (required : Bool) : Json :=
  .object [("name", str name), ("in", str place), ("description", str text),
    ("required", .bool required), ("schema", textShape)]

/-- A list of members that is left out if it is empty. -/
def unlessEmpty (name : String) (items : List Json) : List (String × Json) :=
  if items.isEmpty then [] else [(name, .array items)]

/-- An operation of an endpoint; `details` go on where the summary ends. -/
def operation (tag summary : String) (details : List (String × Json)) (name : String)
    (parameters : List Json) (responses : List (String × Json)) : Json :=
  .object ([("tags", strs [tag]), ("summary", str summary)] ++ details
    ++ [("operationId", str name)] ++ unlessEmpty "parameters" parameters
    ++ [("responses", .object responses)])

/-- A name between backticks. -/
def code (s : String) : String := "\x60" ++ s ++ "\x60"

/-- The members of a filter between braces. -/
def filterMembers : String := Json.openBrace ++ "field, type, value" ++ Json.closeBrace

/-! ## 2. Endpoints -/

/-- The body of a problem. -/
def problemShape : Option String := some "ErrorBody"

/-- Listing rows. -/
def listRows : Json :=
  operation "data" "List rows matching filters and a search term" [] "list_data"
    [parameter "filters" "query" ("JSON array of " ++ filterMembers ++ " filters") false,
     parameter "q" "query" "Search term matched against Brand and Model" false]
    [response "200" "Matching rows in store order" none,
     response "400" "Malformed or invalid filters" problemShape,
     response "500" "Database query failed" problemShape]

/-- The parameter that gives the key of a row. -/
def keyParameter : Json := parameter "id" "path" "Row id" true

/-- Getting a row. -/
def getRow : Json :=
  operation "data" "Get a row by id" [] "get_data" [keyParameter]
    [response "200" "The row" none,
     response "404" "Record not found" problemShape,
     response "500" "Failed to fetch data by ID" problemShape]

/-- Deleting a row. -/
def deleteRow : Json :=
  operation "data" "Delete a row by id" [] "delete_data" [keyParameter]
    [response "200" "Row deleted" (some "DeleteResponse"),
     response "404" "Record not found" problemShape,
     response "500" "Failed to delete record" problemShape]

/-- Asking for the state of the service. -/
def health : Json :=
  operation "health" "Health check endpoint"
    [("description", str ("Reports " ++ code "degraded"
      ++ " with 503 when the database cannot answer a trivial query."))]
    "health" []
    [response "200" "Service is healthy" (some "HealthResponse"),
     response "503" "Database unavailable" (some "HealthResponse")]

/-! ## 3. Shapes -/

/-- The shape of an object. -/
def objectShape (text : Option String) (required : List String)
    (members : List (String × Json)) : Json :=
  .object ([("type", str "object")]
    ++ (text.map fun t => ("description", str t)).toList
    ++ (if required.isEmpty then [] else [("required", strs required)])
    ++ [("properties", .object members)])

/-- The shape of a text that may be missing. -/
def optionalText (text : String) : Json :=
  .object [("type", strs ["string", "null"]), ("description", str text)]

/-- The shapes of bodies and parameters, by name. -/
def shapes : List (String × Json) :=
  [("DeleteResponse", objectShape (some "Response for a successful delete") ["success"]
     [("success", .object [("type", str "boolean")])]),
   ("ErrorBody", objectShape (some "Error response body") ["error", "code"]
     [("code", textShape), ("error", textShape)]),
   ("HealthResponse", objectShape none ["status", "version", "database"]
     [("database", textShape), ("status", textShape), ("version", textShape)]),
   ("ListDataQuery", objectShape (some "Query parameters for listing rows") []
     [("filters", optionalText ("JSON array of " ++ code filterMembers ++ " filter descriptors")),
      ("q", optionalText "Free-text search over brand and model")])]

/-! ## 4. The document -/

/-- What the interface is called. -/
def info : Json :=
  .object [("title", str "Rowgate API"),
    ("description", str "Filtered access to a tabular dataset"),
    ("license", .object [("name", str "")]), ("version", str version)]

/-- A tag with its meaning. -/
def tag (name text : String) : Json := .object [("name", str name), ("description", str text)]

/-- The document. -/
def document : Json :=
  .object
    [("openapi", str "3.1.0"),
     ("info", info),
     ("paths", .object
       [("/api/data", .object [("get", listRows)]),
        ("/api/data/\x7bid\x7d", .object [("get", getRow), ("delete", deleteRow)]),
        ("/api/health", .object [("get", health)])]),
     ("components", .object [("schemas", .object shapes)]),
     ("tags", .array [tag "health" "Health check endpoint", tag "data" "Dataset rows"])]

end Dataset.Http.Description
