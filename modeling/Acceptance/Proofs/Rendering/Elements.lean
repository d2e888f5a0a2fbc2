import Acceptance.Plan.Fault
import Acceptance.Plan.Tree
import Acceptance.Template.Filter

/-!
# The elements of a test module

A test module as a list of elements: code, whole lines that are comments, documentation strings
with fixed and free parts, and texts as literals.  A free text stands in one element only, so what
is said of an element holds wherever the module has one.

    elements p            the elements of the module of a plan
    written es            the characters of some elements
-/

namespace Acceptance.Plan

open Acceptance.Text

/-! ## Elements -/

/-- A part of a documentation string; a free one is written without what would end the string. -/
inductive DocPart where
  | fixed (s : String)
  | free (s : String)
  deriving Repr, DecidableEq

def DocPart.chars : DocPart → List Char
  | fixed s => s.toList
  | free s => (Template.documentation s).toList

inductive Element where
  | code (s : String)
  /-- A whole line, `indent` blanks in front. -/
  | comment (indent : Nat) (text : String)
  | documentation (parts : List DocPart)
  | quoted (s : String)
  /-- A text in printable ASCII. -/
  | markup (s : String)
  deriving Repr, DecidableEq

namespace Element

def tripleQuote : List Char := ['"', '"', '"']

def chars : Element → List Char
  | code s => s.toList
  | comment indent text => List.replicate indent ' ' ++ '#' :: ' ' :: text.toList ++ ['\n']
  | documentation parts => tripleQuote ++ parts.flatMap DocPart.chars ++ tripleQuote
  | quoted s => (quote s).toList
  | markup s => (quoteMarkup s).toList

end Element

/-- The characters of some elements. -/
def written (es : List Element) : List Char := es.flatMap Element.chars

/-- Elements with commas between them. -/
def commas (es : List Element) : List Element := es.intersperse (.code ", ")

/-! ## Steps -/

/-- A cell of a table; one without a value is written in words. -/
def cellElement : Option String → Element
  | some s => .markup s
  | none => .code "null"

def rowElements (row : List (Option String) × Bool) : List Element :=
  [.code "            ["] ++ commas (row.1.map cellElement) ++
    [.code "]", .code (if row.2 then "" else ","), .code "\n"]

/-- The expression that makes a table. -/
def tableExpression (t : Table) : List Element :=
  [.code "DataTable(\n            ["] ++ commas (t.headers.map cellElement) ++ [.code "],\n"] ++
    (flagLast t.rows).flatMap rowElements ++ [.code "        )"]

def tableElements (t : Table) : List Element :=
  [.code "        ", .code t.variableName, .code " = "] ++ tableExpression t ++ [.code "\n"]

def argumentElement (a : Argument) : Element :=
  match a.expression with
  | .literal s => .quoted s
  | e => .code e.source

/-- The object whose method a step calls. -/
def ownerText (s : Step) : String := if s.isStub then "self" else "self." ++ s.owner

/-- A step: its line as a comment, its table, and its call. -/
def stepElements (s : Step) : List Element :=
  [.comment 8 (s.keyword ++ " " ++ s.text)] ++ (s.table.map tableElements).getD [] ++
    [.code "        ", .code (ownerText s), .code ".", .code s.method, .code "("] ++
    commas (s.arguments.map argumentElement) ++ [.code ")\n"]

def stepsElements (ss : List Step) : List Element := ss.flatMap fun s => stepElements s ++ [.code "\n"]

/-! ## Scenarios -/

/-- Lines of a documentation string behind its first one. -/
def docLines (indent : String) (lines : List String) : List DocPart :=
  if lines.isEmpty then []
  else .fixed "\n" :: lines.flatMap fun line => [.fixed indent, .free line, .fixed "\n"]

def parameterElements (ps : List Parameter) : List Element :=
  ps.flatMap fun p => [.code ", ", .code p.name, .code ": ", .code p.kind.typeName]

/-- A value for a parameter. -/
def valueElement : Option String → Element
  | some s => .quoted s
  | none => .code "null"

def caseElements (cells : List (Option String)) : List Element :=
  [.code "            ("] ++ commas (cells.map valueElement) ++ [.code ",),\n"]

/-- The values of a test method. -/
def casesElements (s : Scenario) : List Element :=
  [.code "    @pytest.mark.parametrize(\n        ["] ++
    commas (s.parameters.map fun p => .markup p.name) ++ [.code "],\n        [\n"] ++
    s.cases.flatMap caseElements ++ [.code "        ],\n    )\n"]

def scenarioElements (s : Scenario) : List Element :=
  [.code "\n"] ++
    (if s.isExplicit then
      [.code "    @pytest.mark.skip(reason=\"explicit scenario, run on demand\")\n"] else []) ++
    (if s.parameters.isEmpty then [] else casesElements s) ++
    [.code "    def test_", .code s.method, .code "(self"] ++ parameterElements s.parameters ++
    [.code "):\n        ",
      .documentation ([.free s.name, .fixed "\n"] ++ docLines "        " s.remarks ++
        [.fixed "        "]),
      .code "\n"] ++ stepsElements s.steps

/-! ## Rules and stubs -/

def ruleElements (r : Rule) : List Element :=
  [.code "\n", .comment 4 ("Rule: " ++ textOrNone r.name)] ++
    (if r.description = "" then []
      else (splitAt '\n' r.description.toList).map fun line => .comment 4 (.ofList line)) ++
    r.scenarios.flatMap scenarioElements

/-- The kind and the text of a stub. -/
def Stub.title (s : Stub) : String := s.kind.word ++ " " ++ s.text

def stubElements (s : Stub) : List Element :=
  [.code "\n    def ", .code s.method, .code "(self"] ++ parameterElements s.parameters ++
    [.code "):\n        ", .markup s.title, .code "\n        raise NotImplementedError(",
      .markup ("Step not implemented: " ++ s.title), .code ")\n"]

def stubsElements (stubs : List Stub) : List Element :=
  if stubs.isEmpty then []
  else .code "\n" :: .comment 4 "Unimplemented steps" :: stubs.flatMap stubElements

/-! ## The module -/

def openingElements (p : Plan) : List Element :=
  [.documentation [.free p.featureName,
      .fixed ": acceptance tests.\n\nGenerated by feature-gen from ", .free p.fileName,
      .fixed ".feature. DO NOT EDIT.\n"],
    .code "\n\nimport pytest\n\nfrom feature_gen.runtime import DataTable  # noqa: F401\n"] ++
    p.imports.flatMap fun m => [.code "from ", .code m, .code " import *  # noqa: F401,F403\n"]

def classElements (p : Plan) : List Element :=
  [.code "\n\nclass Test", .code p.className] ++
    (if p.baseClass = "" then [] else [.code "(", .code p.baseClass, .code ")"]) ++
    [.code ":\n    ",
      .documentation ([.free p.featureName, .fixed "\n"] ++ docLines "    " p.description ++
        [.fixed "    "])]

def setupElements (p : Plan) : List Element :=
  [.code "\n\n    @pytest.fixture(autouse=True)\n    def _setup(self):\n        ",
    .documentation [.fixed "Create step objects and run the Background."], .code "\n"] ++
    (p.classes.flatMap fun c => [.code "        self.", .code c, .code " = ", .code c,
      .code "(self)\n"]) ++
    ((p.background.map fun ss => .code "\n" :: stepsElements ss).getD [])

/-- The elements of the module of a plan. -/
def elements (p : Plan) : List Element :=
  openingElements p ++ classElements p ++ setupElements p ++ p.rules.flatMap ruleElements ++
    stubsElements p.stubs

/-! ## Lemmas -/

@[simp] theorem written_nil : written [] = [] := rfl

@[simp] theorem written_cons (e : Element) (es : List Element) :
    written (e :: es) = e.chars ++ written es := rfl

@[simp] theorem written_append (es fs : List Element) :
    written (es ++ fs) = written es ++ written fs := by simp [written]

theorem written_flatMap {α : Type} (f : α → List Element) (as : List α) :
    written (as.flatMap f) = as.flatMap fun a => written (f a) := by
  simp [written, List.flatMap_assoc]

end Acceptance.Plan
