import Dataset.Filter.Payload
import Dataset.Store.Basic

/-!
# The row gateway

One operation for each thing that can be asked of the dataset: list its rows, get one, delete one.
Filters are read and checked before any row is looked at.
-/

namespace Dataset.Gateway

/-- Why a request is not met. -/
inductive Error where
  | filter (cause : Filter.Error)
  | notFound
  | store (cause : Store.Error)
  deriving Repr

/-- The wording of a failure. -/
def Error.message : Error → String
  | .filter cause => cause.message
  | .notFound => "Record not found"
  | .store cause => "Store failure: " ++ cause.message

/-- A failure of the store, as seen from here. -/
def Error.ofStore : Store.Error → Error
  | .notFound => .notFound
  | cause => .store cause

/-- The columns that a search looks in, where the table has them. -/
def searchableColumns : List String := ["Brand", "Model"]

/-- The search term without blanks around it, if anything is left. -/
def searchTerm? (search : Option String) : Option String :=
  (search.map Text.trim).filter fun s => !s.isEmpty

/-- The first refusal of a filter on a field that the table lacks. -/
def checkColumns (columns : List String) : List Filter.Descriptor → Except Filter.Error Unit
  | [] => .ok ()
  | f :: rest => do
    f.checkColumn columns
    checkColumns columns rest

/-- The columns to search, once the filters are known to name columns of the table. -/
def searched (s : Store) (table : String) (filters : List Filter.Descriptor)
    (search : Option String) : Except Error (List String) :=
  if filters.isEmpty && search.isNone then .ok []
  else do
    let columns ← (s.columns table).mapError Error.ofStore
    if columns.isEmpty then .error (.store (.invalidData (.noTable table)))
    else
      (checkColumns columns filters).mapError Error.filter
      .ok (searchableColumns.filter columns.contains)

/-- The rows that meet all filters and in which the search finds its term, in the order of their
    keys. -/
def list (s : Store) (table : String) (filters search : Option String) :
    Except Error (List Row) := do
  let descriptors ← (Filter.parse (filters.getD "")).mapError Error.filter
  let term := searchTerm? search
  let columns ← searched s table descriptors term
  (s.list table (Filter.compile descriptors term columns)).mapError Error.ofStore

/-- The row with a key. -/
def get (s : Store) (table id : String) : Except Error Row :=
  (s.get table id).mapError Error.ofStore

/-- The store without the row with a key. -/
def delete (s : Store) (table id : String) : Except Error Store :=
  (s.delete table id).mapError Error.ofStore

end Dataset.Gateway
