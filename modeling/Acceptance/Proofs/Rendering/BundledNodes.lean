import Acceptance.Template.Bundled

/-!
# The nodes of the bundled template

The bundled template as it is read: the macro that writes a step, and one list of nodes for each
part of the module.

    Node.read bundled = some bundledNodes                                      (read_bundled)
-/

namespace Acceptance.Template

/-! ## Expressions and loops -/

/-- An attribute of a name. -/
def dotted (owner name : String) : Expr := .attribute (.name owner) name

/-- What opens and closes a documentation string. -/
def quotes : String := "\"\"\""

/-- A value written for a documentation string. -/
def documented (e : Expr) : Node := .output (.filter e "docstring" [])

/-- A value written as a literal. -/
def asLiteral (e : Expr) : Expr := .filter e "tojson" []

/-- Two expressions written one behind the other, with a blank between them. -/
def spaced (left right : Expr) : Expr := .joined (.joined left (.literal (.str " "))) right

/-- A mark behind every item of a loop but the last. -/
def unlessLast (target mark : String) : Node :=
  .branch (.not (dotted target "last")) [.text mark] []

/-- Items with commas between them. -/
def commaLoop (target : String) (source shown : Expr) : Node :=
  .loop target source [.output shown, unlessLast target ", "] []

/-- A line of documentation for each line of a text. -/
def lineLoop (indent : String) (source : Expr) : Node :=
  .loop "line" source [.text indent, documented (.name "line"), .text "\n"] []

/-- The calls of some steps. -/
def stepLoop (source : Expr) : Node :=
  .loop "step" source [.output (.call (.name "call_step") [.name "step"]), .text "\n"] []

/-- The parameters of a method behind its object. -/
def parameterLoop (owner : String) : Node :=
  .loop "param" (dotted owner "parameters")
    [.text ", ", .output (dotted "param" "name"), .text ": ", .output (dotted "param" "type")] []

/-! ## Steps -/

/-- The rows of a table behind its header. -/
def rowNodes : List Node :=
  [.text "            [",
    commaLoop "cell" (dotted "row" "cells") (asLiteral (dotted "cell" "value")),
    .text "]", unlessLast "row" ",", .text "\n"]

/-- The assignment of a table to its variable. -/
def tableNodes : List Node :=
  [.text "        ", .output (.attribute (dotted "step" "data_table") "variable_name"),
    .text " = DataTable(\n            [",
    commaLoop "header" (.attribute (dotted "step" "data_table") "headers")
      (asLiteral (dotted "header" "value")),
    .text "],\n", .loop "row" (.attribute (dotted "step" "data_table") "rows") rowNodes [],
    .text "        )\n"]

/-- The object whose method a step calls. -/
def ownerExpr : Expr :=
  .conditional (.equal (dotted "step" "owner") (.literal (.str "self"))) (.literal (.str "self"))
    (some (.joined (.literal (.str "self.")) (dotted "step" "owner")))

/-- A step: its line as a comment, its table, and its call. -/
def stepNodes : List Node :=
  [.text "        # ", .output (dotted "step" "keyword"), .text " ", .output (dotted "step" "text"),
    .text "\n", .branch (dotted "step" "data_table") tableNodes [], .text "        ",
    .output ownerExpr, .text ".", .output (dotted "step" "method"), .text "(",
    commaLoop "arg" (dotted "step" "arguments") (dotted "arg" "expression"), .text ")\n"]

/-! ## Scenarios -/

/-- The rows of values of a test method. -/
def casesNodes : List Node :=
  [.text "    @pytest.mark.parametrize(\n        [",
    commaLoop "param" (dotted "scenario" "parameters") (asLiteral (dotted "param" "name")),
    .text "],\n        [\n",
    .loop "case" (dotted "scenario" "test_cases")
      [.text "            (", .output (.name "case"), .text ",),\n"] [],
    .text "        ],\n    )\n"]

def scenarioNodes : List Node :=
  [.text "\n",
    .branch (dotted "scenario" "explicit_tag")
      [.text "    @pytest.mark.skip(reason=\"explicit scenario, run on demand\")\n"] [],
    .branch (dotted "scenario" "parameters") casesNodes [],
    .text "    def test_", .output (dotted "scenario" "method"), .text "(self",
    parameterLoop "scenario", .text ("):\n        " ++ quotes), documented (dotted "scenario" "name"),
    .text "\n",
    .branch (dotted "scenario" "remarks")
      [.text "\n", lineLoop "        " (.attribute (dotted "scenario" "remarks") "lines")] [],
    .text ("        " ++ quotes ++ "\n"), stepLoop (dotted "scenario" "steps")]

/-! ## Rules and stubs -/

def ruleNodes : List Node :=
  [.text "\n    # Rule: ", .output (dotted "rule" "name"), .text "\n",
    .branch (dotted "rule" "description")
      [.text "    # ",
        .output (.filter (dotted "rule" "description") "replace"
          [.literal (.str "\n"), .literal (.str "\n    # ")]),
        .text "\n"] [],
    .loop "scenario" (dotted "rule" "scenarios") scenarioNodes []]

def stubNodes : List Node :=
  [.text "\n    def ", .output (dotted "stub" "method"), .text "(self", parameterLoop "stub",
    .text "):\n        ",
    .output (asLiteral (spaced (dotted "stub" "keyword") (dotted "stub" "text"))),
    .text "\n        raise NotImplementedError(",
    .output (asLiteral (spaced
      (.joined (.literal (.str "Step not implemented: ")) (dotted "stub" "keyword"))
      (dotted "stub" "text"))),
    .text ")\n"]

/-! ## The module -/

/-- The opening of the module: its documentation and its imports. -/
def openingNodes : List Node :=
  [.text quotes, documented (.name "feature_name"),
    .text ": acceptance tests.\n\nGenerated by feature-gen from ", documented (.name "file_name"),
    .text (".feature. DO NOT EDIT.\n" ++ quotes ++
      "\n\nimport pytest\n\nfrom feature_gen.runtime import DataTable  # noqa: F401\n"),
    .loop "using" (.name "usings")
      [.text "from ", .output (.name "using"), .text " import *  # noqa: F401,F403\n"] []]

/-- The class with its documentation. -/
def classNodes : List Node :=
  [.text "\n\nclass Test", .output (.name "feature_class"),
    .branch (.name "base_class") [.text "(", .output (.name "base_class"), .text ")"] [],
    .text (":\n    " ++ quotes), documented (.name "feature_name"), .text "\n",
    .branch (.name "description_lines")
      [.text "\n", lineLoop "    " (.name "description_lines")] []]

/-- The method that prepares a test. -/
def setupNodes : List Node :=
  [.text ("    " ++ quotes ++ "\n\n    @pytest.fixture(autouse=True)\n    def _setup(self):\n        " ++
      quotes ++ "Create step objects and run the Background." ++ quotes ++ "\n"),
    .loop "step_class" (.name "classes")
      [.text "        self.", .output (.name "step_class"), .text " = ",
        .output (.name "step_class"), .text "(self)\n"] [],
    .branch (.name "background") [.text "\n", stepLoop (dotted "background" "steps")] []]

/-- The test methods, rule by rule, and the stubs. -/
def testNodes : List Node :=
  [.loop "rule" (.name "rules") ruleNodes [],
    .branch (.name "unimplemented")
      [.text "\n    # Unimplemented steps\n", .loop "stub" (.name "unimplemented") stubNodes []] []]

/-- The nodes behind the macro. -/
def moduleNodes : List Node := openingNodes ++ classNodes ++ setupNodes ++ testNodes

def bundledNodes : List Node := .define "call_step" ["step"] stepNodes :: moduleNodes

/-! ## Reading -/

/-- The nodes of a template from its characters. -/
def readList (cs : List Char) : Option (List Node) :=
  match piecesFrom ((Text.unifyLineEnds cs).length + 1) true (Text.unifyLineEnds cs) with
  | none => none
  | some ps =>
    match bodyOf (ps.length + 1) ps with
    | some (nodes, none, []) => some nodes
    | _ => none

theorem read_eq_readList (source : String) : Node.read source = readList source.toList := rfl

theorem toList_bundled :
    bundled.toList = (bundledLines.map String.toList).flatMap (· ++ ['\n']) := by
  simp [bundled, List.flatMap_map]

theorem toList_append_eq {s t : String} {cs ds : List Char} (hs : s.toList = cs)
    (ht : t.toList = ds) : (s ++ t).toList = cs ++ ds := by
  rw [String.toList_append, hs, ht]

theorem map_toList_cons {s : String} {ss : List String} {cs : List Char} {lines : List (List Char)}
    (hs : s.toList = cs) (hss : ss.map String.toList = lines) :
    (s :: ss).map String.toList = cs :: lines := by
  rw [List.map_cons, hs, hss]

/-- What holds of the characters of its lines holds of the bundled template. -/
theorem bundled_of_lines {P : List Char → Prop} {lines : List (List Char)}
    (hlines : bundledLines.map String.toList = lines) (h : P (lines.flatMap (· ++ ['\n']))) :
    P bundled.toList := by
  rw [toList_bundled, hlines]
  exact h

set_option maxRecDepth 100000 in
theorem characters_bundled :
    readList bundled.toList = some bundledNodes ∧ '\r' ∉ bundled.toList := by
  apply bundled_of_lines (P := fun cs => readList cs = some bundledNodes ∧ '\r' ∉ cs)
  -- The characters of a literal are read off it: decoding its bytes is what would take long.
  · simp only [bundledLines, value, tag]
    repeat' (with_reducible first
      | exact String.toList_ofList | apply toList_append_eq | apply map_toList_cons
      | exact List.map_nil)
  · exact ⟨rfl, by decide +kernel⟩

/-- **The nodes of the bundled template.** -/
theorem read_bundled : Node.read bundled = some bundledNodes :=
  (read_eq_readList bundled).trans characters_bundled.1

/-- The bundled template has line feeds alone. -/
theorem return_not_mem_bundled : '\r' ∉ bundled.toList := characters_bundled.2

end Acceptance.Template
