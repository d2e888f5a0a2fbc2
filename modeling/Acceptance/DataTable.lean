import Acceptance.Text.Quoted
import Acceptance.Text.Decimal

/-!
# Data tables

The table that a step method receives: a header and rows as wide as the header.  A row is also
seen as a dictionary from headers to cells; a header that occurs twice keeps its first place there
and the cell of its last.

    DataTable.make headers rows = .ok t      all rows are as wide as the header
    t.column name                            the cells under a header
    t.asDict                                 a table of two columns as a dictionary
-/

namespace Acceptance

open Acceptance.Text

structure DataTable where
  headers : List String
  rows : List (List String)
  deriving Repr, DecidableEq

namespace DataTable

/-- Why a table cannot be made or read. -/
inductive TableError where
  /-- A row, counted from one, that is not as wide as the header. -/
  | width (row cells headers : Nat)
  | noColumn (name : String)
  | shortRow
  | notTwoColumns
  deriving Repr, DecidableEq

def TableError.message : TableError → String
  | .width row cells headers =>
    "Row " ++ Decimal.text row ++ " has " ++ Decimal.text cells ++ " cells, expected " ++
      Decimal.text headers
  | .noColumn name => literal name ++ " is not in list"
  | .shortRow => "list index out of range"
  | .notTwoColumns => "as_dict() requires a two-column table"

/-! ## Making a table -/

/-- The first row that is not `width` wide, rows counted from `n`. -/
def widthError? (width n : Nat) : List (List String) → Option TableError
  | [] => none
  | row :: rows =>
    if row.length = width then widthError? width (n + 1) rows else some (.width n row.length width)

def make (headers : List String) (rows : List (List String)) : Except TableError DataTable :=
  match widthError? headers.length 1 rows with
  | some e => .error e
  | none => .ok ⟨headers, rows⟩

/-- Adds a row at the end, whatever its width. -/
def appendRow (t : DataTable) (row : List String) : DataTable := { t with rows := t.rows ++ [row] }

/-! ## Dictionaries -/

/-- Sets a key: a known one keeps its place, a new one comes last. -/
def put (d : List (String × String)) (key value : String) : List (String × String) :=
  if d.any (·.1 == key) then d.map fun e => if e.1 == key then (key, value) else e
  else d ++ [(key, value)]

def dictOf (entries : List (String × String)) : List (String × String) :=
  entries.foldl (fun d e => put d e.1 e.2) []

/-- A row as a dictionary. -/
def rowDict (t : DataTable) (row : List String) : List (String × String) := dictOf (t.headers.zip row)

/-- The rows as dictionaries. -/
def dicts (t : DataTable) : List (List (String × String)) := t.rows.map t.rowDict

/-! ## Looking into a table -/

/-- The cells at a place of every row. -/
def cellsAt (place : Nat) : List (List String) → Except TableError (List String)
  | [] => .ok []
  | row :: rows =>
    match row[place]? with
    | none => .error .shortRow
    | some cell => (cellsAt place rows).map (cell :: ·)

/-- The cells under the first header of a name. -/
def column (t : DataTable) (name : String) : Except TableError (List String) :=
  match t.headers.idxOf? name with
  | none => .error (.noColumn name)
  | some place => cellsAt place t.rows

/-- The first two cells of every row. -/
def pairs : List (List String) → Except TableError (List (String × String))
  | [] => .ok []
  | (key :: value :: _) :: rows => (pairs rows).map ((key, value) :: ·)
  | _ :: _ => .error .shortRow

/-- A table of two columns as a dictionary from the first to the second. -/
def asDict (t : DataTable) : Except TableError (List (String × String)) :=
  if t.headers.length = 2 then (pairs t.rows).map dictOf else .error .notTwoColumns

/-- A table in short. -/
def text (t : DataTable) : String :=
  "DataTable(" ++ literalList t.headers ++ ", " ++ Decimal.text t.rows.length ++ " rows)"

end DataTable

end Acceptance
