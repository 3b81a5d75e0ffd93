import Dataset.Sql.Identifier
import Dataset.Text.Blank

/-!
# What can go wrong with the store

* `Fault` is a statement that the engine refuses, with its code and its wording;
* `Csv.Error` is a table of comma separated values that cannot be read;
* `Store.Error` is every failure of a store operation, `Error.message` its wording, and
  `Error.isTransient` says whether the same operation may succeed later.
-/

namespace Dataset.Store

/-! ## 1. Refused statements -/

/-- Why the engine refuses a statement, or a file. -/
inductive Fault where
  | reservedName (table : String)
  | unrecognizedToken (token : String)
  | unexpected (token : String)
  | noSuchTable (table : String)
  | tableExists (table : String)
  | noSuchColumn (column : String)
  | noColumnNamed (table column : String)
  | duplicateColumn (column : String)
  | tooManyColumns (table : String)
  | manyKeys (table : String)
  | onlyGenerated
  | generatedColumn (column : String)
  | valueCount (table : String) (columns values : Nat)
  | patternTooComplex
  | full
  | cannotOpen
  | mismatch
  | notADatabase
  | keyTaken (table column : String)
  | rowTaken (table : String)
  deriving DecidableEq, Repr

namespace Fault

/-- The engine's code for a fault. -/
def code : Fault → Nat
  | full => 13
  | cannotOpen => 14
  | mismatch => 20
  | notADatabase => 26
  | keyTaken _ _ => 1555
  | rowTaken _ => 2579
  | _ => 1

/-- The engine's wording of a fault. -/
def text : Fault → String
  | reservedName table => "object name reserved for internal use: " ++ table
  | unrecognizedToken token => "unrecognized token: \"" ++ token ++ "\""
  | unexpected token => "near \"" ++ token ++ "\": syntax error"
  | noSuchTable table => "no such table: " ++ table
  | tableExists table => "table " ++ Sql.quote table ++ " already exists"
  | noSuchColumn column => "no such column: " ++ column
  | noColumnNamed table column => "table " ++ table ++ " has no column named " ++ column
  | duplicateColumn column => "duplicate column name: " ++ column
  | tooManyColumns table => "too many columns on " ++ table
  | manyKeys table => "table \"" ++ table ++ "\" has more than one primary key"
  | onlyGenerated => "must have at least one non-generated column"
  | generatedColumn column => "cannot INSERT into generated column \"" ++ column ++ "\""
  | valueCount table columns values =>
    "table " ++ table ++ " has " ++ Text.ofNat columns ++ " columns but " ++ Text.ofNat values
      ++ " values were supplied"
  | patternTooComplex => "LIKE or GLOB pattern too complex"
  | full => "database or disk is full"
  | cannotOpen => "unable to open database file"
  | mismatch => "datatype mismatch"
  | notADatabase => "file is not a database"
  | keyTaken table column => "UNIQUE constraint failed: " ++ table ++ "." ++ column
  | rowTaken table => "UNIQUE constraint failed: " ++ table ++ ".rowid"

end Fault

end Dataset.Store

namespace Dataset.Csv

/-! ## 2. Unreadable tables -/

/-- Why a table of comma separated values cannot be read. -/
inductive Error where
  /-- In a field of the header the byte at this place begins no character. -/
  | invalidHeader (field at_ : Nat)
  | io (text : String)
  deriving DecidableEq, Repr

/-- The wording of a cause. -/
def Error.message : Error → String
  | .invalidHeader field at_ =>
    "CSV parse error: record 0 (line 1, field: " ++ Text.ofNat field
      ++ ", byte: 0): invalid utf-8: invalid UTF-8 in field " ++ Text.ofNat field
      ++ " near byte index " ++ Text.ofNat at_
  | .io text => text

end Dataset.Csv

namespace Dataset.Store

/-! ## 3. Failures -/

/-- Why data cannot be stored as given. -/
inductive Unfit where
  | valueCount (columns values : Nat)
  | noColumns
  | noTable (table : String)
  | stated (text : String)
  deriving DecidableEq, Repr

/-- The wording of a cause. -/
def Unfit.text : Unfit → String
  | .valueCount columns values =>
    "expected " ++ Text.ofNat columns ++ " values, got " ++ Text.ofNat values
  | .noColumns => "CSV header has no usable columns"
  | .noTable table => "table '" ++ table ++ "' not found"
  | .stated text => text

/-- What the driver of the engine reports: a statement that the engine refused, or a failure on the way to it. -/
inductive EngineError where
  | refused (fault : Fault)
  | poolTimedOut
  | poolClosed
  | communication (text : String)
  | rowNotFound
  | columnNotFound (name : String)
  | workerCrashed
  deriving DecidableEq, Repr

/-- The text of an `EngineError`. -/
def EngineError.message : EngineError → String
  | .refused fault =>
    "error returned from database: (code: " ++ Text.ofNat fault.code ++ ") " ++ fault.text
  | .poolTimedOut => "pool timed out while waiting for an open connection"
  | .poolClosed => "attempted to acquire a connection on a closed pool"
  | .communication text => "error communicating with database: " ++ text
  | .rowNotFound => "no rows returned by a query that expected to return at least one row"
  | .columnNotFound name => "no column found for name: " ++ name
  | .workerCrashed => "attempted to communicate with a crashed background worker"

/-- The failure of a store operation. -/
inductive Error where
  | notFound
  | engine (cause : EngineError)
  | io (text : String)
  | csv (cause : Csv.Error)
  | invalidData (cause : Unfit)
  deriving DecidableEq, Repr

namespace Error

/-- A statement that the engine refuses. -/
def refused (fault : Fault) : Error := engine (.refused fault)

/-- The wording of a failure. -/
def message : Error → String
  | notFound => "Row not found"
  | engine cause => "SQLite error: " ++ cause.message
  | io text => "IO error: " ++ text
  | csv cause => "CSV error: " ++ cause.message
  | invalidData cause => "Invalid data: " ++ cause.text

/-- The connection failed rather than the operation: it may succeed when tried again. -/
def isTransient : Error → Bool
  | engine .poolTimedOut => true
  | engine .poolClosed => true
  | engine (.communication _) => true
  | _ => false

end Error

end Dataset.Store
