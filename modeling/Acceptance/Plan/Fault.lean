import Acceptance.Text.Quoted
import Acceptance.Text.Decimal

/-!
# Faults of a feature

Why no test plan can be made for a feature.
-/

namespace Acceptance.Plan

open Acceptance.Text

inductive Fault where
  /-- A tag whose value is no dotted name. -/
  | tag (t : String)
  /-- A rule with a background of its own. -/
  | ruleBackground (rule : Option String)
  /-- Tables of values of one scenario with different columns. -/
  | columns (scenario : String) (first other : List (Option String))
  /-- A row of a data table, counted from one, that is not as wide as the header. -/
  | raggedRow (row cells header : Nat)
  /-- A step that supplies more or fewer values than its method takes. -/
  | arity (keyword text method : String) (parameters supplied : Nat)
  deriving Repr, DecidableEq

/-- Texts without a value, in words. -/
def textOrNone (s : Option String) : String := s.getD "None"

/-- A list of texts as literals, one without a value in words. -/
def cellList (cells : List (Option String)) : String :=
  "[" ++ ", ".intercalate (cells.map fun c => (c.map literal).getD "None") ++ "]"

def Fault.message : Fault → String
  | .tag t => "Invalid value in tag '" ++ t ++ "': expected a dotted name"
  | .ruleBackground rule =>
    "Rule '" ++ textOrNone rule ++
      "' has a Background; only a feature-level Background is supported"
  | .columns scenario first other =>
    "Examples of scenario '" ++ scenario ++ "' have different columns: " ++ cellList first ++
      " vs " ++ cellList other
  | .raggedRow row cells header =>
    "Data table row " ++ Decimal.text row ++ " has " ++ Decimal.text cells ++
      " cell(s) but the header has " ++ Decimal.text header
  | .arity keyword text method parameters supplied =>
    "Step '" ++ keyword ++ " " ++ text ++ "' matched " ++ method ++ ", which takes " ++
      Decimal.text parameters ++ " parameter(s), but the step supplies " ++ Decimal.text supplied

end Acceptance.Plan
