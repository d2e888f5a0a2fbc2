import Acceptance.Json.Basic
import Acceptance.Plan.Basic

/-!
# Plans as trees

The form in which a template sees a plan, and in which it is exported.  The entries of a list that
a template writes with commas between them say whether they are the last.

    tree p                the plan with its absent parts as nulls
    exportText indent p   the text of the tree without its nulls
-/

namespace Acceptance.Plan

open Acceptance.Text

/-! ## Lists with an end -/

/-- Each entry with whether it is the last. -/
def flagLast {α : Type} : List α → List (α × Bool)
  | [] => []
  | [a] => [(a, true)]
  | a :: as => (a, false) :: flagLast as

/-- Entries with the member `last`. -/
def flagged {α : Type} (members : α → List (String × Json)) (as : List α) : Json :=
  .arr ((flagLast as).map fun (a, last) => .obj (members a ++ [("last", .bool last)]))

theorem getElem?_flagLast {α : Type} (as : List α) (i : Nat) :
    (flagLast as)[i]? = as[i]?.map fun a => (a, decide (i + 1 = as.length)) := by
  induction as using flagLast.induct generalizing i with
  | case1 => rfl
  | case2 a => cases i <;> rfl
  | case3 a as hne ih =>
    rw [flagLast]
    · cases i with
      | zero =>
        have hlength : as.length ≠ 0 := fun h => hne (List.length_eq_zero_iff.1 h)
        simp [hlength]
      | succ i =>
        rw [List.getElem?_cons_succ, List.getElem?_cons_succ, ih]
        simp
    · exact hne

theorem map_fst_flagLast {α : Type} (as : List α) : (flagLast as).map (·.1) = as := by
  refine List.ext_getElem? fun i => ?_
  rw [List.getElem?_map, getElem?_flagLast, Option.map_map]
  exact Option.map_id_apply

/-! ## Parts -/

def stringsTree (ss : List String) : Json := .arr (ss.map .str)

def textOrNull (s : Option String) : Json := (s.map Json.str).getD .null

def Parameter.members (p : Parameter) : List (String × Json) :=
  [("type", .str p.kind.typeName), ("name", .str p.name)]

def Argument.members (a : Argument) : List (String × Json) :=
  [("value", .str a.value), ("expression", .str a.expression.source)]

def cellMembers (value : Option String) : List (String × Json) := [("value", textOrNull value)]

def Table.tree (t : Table) : Json :=
  .obj [("variable_name", .str t.variableName), ("headers", flagged cellMembers t.headers),
    ("rows", flagged (fun row => [("cells", flagged cellMembers row)]) t.rows)]

def Step.tree (s : Step) : Json :=
  .obj [("keyword", .str s.keyword), ("text", .str s.text), ("owner", .str s.owner),
    ("method", .str s.method), ("arguments", flagged Argument.members s.arguments),
    ("data_table", (s.table.map Table.tree).getD .null)]

def stepsTree (ss : List Step) : Json := .arr (ss.map Step.tree)

/-- A row of values for the parameters of a test method. -/
def caseText (cells : List (Option String)) : String :=
  ", ".intercalate (cells.map fun c => (c.map quote).getD "null")

def remarksTree (remarks : List String) : Json :=
  if remarks.isEmpty then .null else .obj [("lines", stringsTree remarks)]

def Scenario.tree (s : Scenario) : Json :=
  .obj [("name", .str s.name), ("method", .str s.method), ("remarks", remarksTree s.remarks),
    ("explicit_tag", .bool s.isExplicit), ("test_cases", stringsTree (s.cases.map caseText)),
    ("parameters", flagged Parameter.members s.parameters), ("steps", stepsTree s.steps)]

def Rule.tree (r : Rule) : Json :=
  .obj [("name", textOrNull r.name), ("description", .str r.description),
    ("scenarios", .arr (r.scenarios.map Scenario.tree))]

def Stub.tree (s : Stub) : Json :=
  .obj [("keyword", .str s.kind.word), ("text", .str s.text), ("method", .str s.method),
    ("parameters", flagged Parameter.members s.parameters)]

/-! ## Plans -/

def tree (p : Plan) : Json :=
  .obj [("usings", stringsTree p.imports), ("namespace", .str p.package),
    ("file_name", .str p.fileName),
    ("feature_name", .str p.featureName), ("feature_class", .str p.className),
    ("description_lines", stringsTree p.description), ("base_class", .str p.baseClass),
    ("classes", stringsTree p.classes),
    ("background", (p.background.map fun ss => .obj [("steps", stepsTree ss)]).getD .null),
    ("rules", .arr (p.rules.map Rule.tree)), ("unimplemented", .arr (p.stubs.map Stub.tree))]

/-- The exported text of a plan. -/
def exportText (indent : Nat) (p : Plan) : String :=
  Json.pretty indent (Json.dropNulls (tree p)) ++ "\n"

end Acceptance.Plan
