import Acceptance.Gherkin.Document
import Acceptance.Plan.Basic
import Acceptance.Plan.Fault

/-!
# Data tables of steps

The first row of a data table is its header; every other row has a cell for each header.

    Table.of variableName rows        the table of the rows
    raggedFault? rows = none          all rows are as wide as the first
-/

namespace Acceptance.Plan

/-- The values of a row. -/
def cellsOf (row : Gherkin.Row) : List (Option String) := row.map (·.value)

/-- The table of some rows under a variable. -/
def Table.of (variableName : String) : List Gherkin.Row → Table
  | [] => ⟨variableName, [], []⟩
  | header :: rows => ⟨variableName, cellsOf header, rows.map cellsOf⟩

/-- The first row that is not `width` wide, rows counted from `n`. -/
def raggedFrom? (width n : Nat) : List Gherkin.Row → Option Fault
  | [] => none
  | row :: rows =>
    if row.length = width then raggedFrom? width (n + 1) rows else some (.raggedRow n row.length width)

/-- The first row that is not as wide as the header. -/
def raggedFault? : List Gherkin.Row → Option Fault
  | [] => none
  | header :: rows => raggedFrom? header.length 1 rows

/-- The table of some rows, which are all as wide as the first. -/
def Table.read (variableName : String) (rows : List Gherkin.Row) : Except Fault Table :=
  match raggedFault? rows with
  | some fault => .error fault
  | none => .ok (.of variableName rows)

end Acceptance.Plan
