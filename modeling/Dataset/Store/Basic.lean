import Dataset.Store.Database
import Dataset.Store.Query

/-!
# The store

The store is a database behind a pool of connections. Once the pool is closed every operation fails,
and nothing changes any more.

Operations that either succeed or change nothing give the new store or the failure; `ensureTable`
gives both.
-/

namespace Dataset

open Store (Database Error Fault Cell)
open Dataset.Filter (Predicate Condition)

/-- A database and the state of its pool. -/
structure Store where
  database : Database
  isOpen : Bool
  deriving DecidableEq, Repr

namespace Store

/-- An open store. -/
def ofDatabase (d : Database) : Store := ⟨d, true⟩

/-- An open store without tables. -/
def fresh : Store := ofDatabase .empty

/-- The store with its pool closed. -/
def close (s : Store) : Store := { s with isOpen := false }

/-- Refuses if the pool is closed. -/
def connect (s : Store) : Except Error Database :=
  if s.isOpen then .ok s.database else .error (.engine .poolClosed)

/-- What a statement gives, as the outcome of an operation. -/
def ofStatement {α : Type} (r : Except Fault α) : Except Error α := r.mapError Error.refused

/-- Moves the log of the database into its file. -/
def checkpoint (s : Store) : Except Error Unit := do
  let _ ← s.connect

/-! ## 1. Shape -/

/-- The name up to its first NUL character. -/
def untilNul (name : String) : String := String.ofList (name.toList.takeWhile (· != '\x00'))

/-- The columns of a table in the order of their declaration; none if there is no such table. -/
def columns (s : Store) (table : String) : Except Error (List String) := do
  let d ← s.connect
  .ok (d.columns (untilNul table))

/-- Creates the table if it is missing, and adds the columns that it lacks. -/
def ensureTable (s : Store) (table : String) (columns : List String) :
    Except Error Unit × Store :=
  match s.connect with
  | .error e => (.error e, s)
  | .ok d =>
    let r := d.ensureTable table columns
    (ofStatement r.1, { s with database := r.2 })

/-! ## 2. Rows -/

/-- Adds a row of texts; a missing text is no value. -/
def insert (s : Store) (table : String) (columns : List String) (values : List (Option String)) :
    Except Error Store := do
  if columns.length ≠ values.length then
    .error (.invalidData (.valueCount columns.length values.length))
  else
    let d ← s.connect
    let d ← ofStatement (d.insert table columns (values.map Cell.ofText?))
    .ok { s with database := d }

/-- The table that a question is put to; its own name and those in the question have to be
    readable. -/
def asked (s : Store) (table : String) (names : List String) : Except Error Table := do
  let d ← s.connect
  ofStatement do
    Database.checkNames (table :: names)
    d.table table

/-- The rows that meet a predicate, in the order of their numbers. -/
def list (s : Store) (table : String) (p : Predicate) : Except Error (List Row) := do
  let t ← s.asked table p.columns
  let rs ← ofStatement (t.select p)
  .ok (rs.map t.row)

/-- The predicate that the key is a given text. -/
def keyIs (id : String) : Predicate := ⟨[.compare Sql.keyColumn .equal id]⟩

/-- The first row with a key. -/
def get (s : Store) (table id : String) : Except Error Row := do
  match ← s.list table (keyIs id) with
  | r :: _ => .ok r
  | [] => .error .notFound

/-- Removes the rows with a key, of which there must be one. -/
def delete (s : Store) (table id : String) : Except Error Store := do
  let t ← s.asked table (keyIs id).columns
  let rs ← ofStatement (t.select (keyIs id))
  if rs.isEmpty then .error .notFound
  else .ok { s with database := s.database.replace table (t.remove rs.contains) }

end Store

end Dataset
