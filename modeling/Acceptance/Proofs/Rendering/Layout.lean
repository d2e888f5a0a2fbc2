import Acceptance.Proofs.Rendering.Rendered

/-!
# The layout of a test module

A test module line by line: its header, an import for each module, the class with its
documentation, the method that sets up a test, the rules with a method for each scenario, and a
method for each stub.  A step is a block of lines: its line as a comment, the assignment of its
table where it has one, and its call.  Each list of the plan is laid out in its own order.

    p.render bundled = .ok (unlines (moduleLines p))                            (render_in_order)
-/

namespace Acceptance.Plan

open Acceptance.Text

/-! ## Algorithm -/

/-- A line with blanks in front of it. -/
def indented (n : Nat) (s : String) : String := .ofList (List.replicate n ' ') ++ s

/-- The text of some lines. -/
def unlines (ls : List String) : String := String.join (ls.map (· ++ "\n"))

/-- Texts with commas and blanks between them. -/
def listed (ss : List String) : String := ", ".intercalate ss

/-- What opens and closes a documentation string. -/
def docMark : String := "\"\"\""

/-- A documentation string, with an empty line between its first line and the others. -/
def docstringLines (indent : Nat) (first : String) (others : List String) : List String :=
  [indented indent (docMark ++ Template.documentation first)] ++
    (if others.isEmpty then []
      else "" :: others.map fun line => indented indent (Template.documentation line)) ++
    [indented indent docMark]

/-! ### Steps -/

/-- A header or a cell of a table. -/
def cellText (cell : Option String) : String := (cell.map quoteMarkup).getD "null"

def rowText (row : List (Option String)) : String := "[" ++ listed (row.map cellText) ++ "]"

/-- The assignment of a table to its variable. -/
def tableLines (t : Table) : List String :=
  [indented 8 (t.variableName ++ " = DataTable("), indented 12 (rowText t.headers ++ ",")] ++
    (flagLast t.rows).map (fun row => indented 12 (rowText row.1 ++ if row.2 then "" else ",")) ++
    [indented 8 ")"]

def callText (s : Step) : String :=
  ownerText s ++ "." ++ s.method ++ "(" ++ listed (s.arguments.map (·.expression.source)) ++ ")"

/-- The block of a step. -/
def blockLines (s : Step) : List String :=
  [indented 8 ("# " ++ s.keyword ++ " " ++ s.text)] ++ (s.table.map tableLines).getD [] ++
    [indented 8 (callText s), ""]

/-! ### Methods -/

/-- The head of a method. -/
def methodHead (name : String) (ps : List Parameter) : String :=
  indented 4 ("def " ++ name ++ "(" ++
    listed ("self" :: ps.map fun x => x.name ++ ": " ++ x.kind.typeName) ++ "):")

/-- The mark of a scenario that is run on demand. -/
def skipLine : String :=
  indented 4 "@pytest.mark.skip(reason=\"explicit scenario, run on demand\")"

/-- The mark of an outline: the names of its parameters and a tuple for each row of values. -/
def parametrizeLines (s : Scenario) : List String :=
  [indented 4 "@pytest.mark.parametrize(",
    indented 8 ("[" ++ listed (s.parameters.map fun x => quoteMarkup x.name) ++ "],"),
    indented 8 "["] ++
    s.cases.map (fun cells => indented 12 ("(" ++ caseText cells ++ ",),")) ++
    [indented 8 "],", indented 4 ")"]

/-- The method of a scenario. -/
def testLines (s : Scenario) : List String :=
  [""] ++ (if s.isExplicit then [skipLine] else []) ++
    (if s.parameters.isEmpty then [] else parametrizeLines s) ++
    [methodHead ("test_" ++ s.method) s.parameters] ++ docstringLines 8 s.name s.remarks ++
    s.steps.flatMap blockLines

/-- The comment of a rule. -/
def ruleComment (r : Rule) : List String :=
  ["", indented 4 ("# Rule: " ++ textOrNone r.name)] ++
    if r.description = "" then []
    else (splitAt '\n' r.description.toList).map fun line => indented 4 ("# " ++ .ofList line)

/-- The method of a stub. -/
def stubLines (s : Stub) : List String :=
  ["", methodHead s.method s.parameters, indented 8 (quoteMarkup s.title),
    indented 8 ("raise NotImplementedError(" ++
      quoteMarkup ("Step not implemented: " ++ s.title) ++ ")")]

/-! ### The module -/

def headerLines (p : Plan) : List String :=
  [docMark ++ Template.documentation p.featureName ++ ": acceptance tests.", "",
    "Generated by feature-gen from " ++ Template.documentation p.fileName ++
      ".feature. DO NOT EDIT.",
    docMark, "", "import pytest", "", "from feature_gen.runtime import DataTable  # noqa: F401"]

def importLine (m : String) : String := "from " ++ m ++ " import *  # noqa: F401,F403"

def classLines (p : Plan) : List String :=
  ["", "", "class Test" ++ p.className ++
    (if p.baseClass = "" then "" else "(" ++ p.baseClass ++ ")") ++ ":"] ++
    docstringLines 4 p.featureName p.description

/-- The assignment of a step object. -/
def objectLine (c : String) : String := indented 8 ("self." ++ c ++ " = " ++ c ++ "(self)")

/-- The method that sets up a test. -/
def setupLines (p : Plan) : List String :=
  ["", indented 4 "@pytest.fixture(autouse=True)", indented 4 "def _setup(self):",
    indented 8 (docMark ++ "Create step objects and run the Background." ++ docMark)] ++
    p.classes.map objectLine ++
    (p.background.map fun ss => "" :: ss.flatMap blockLines).getD []

def stubSection (stubs : List Stub) : List String :=
  if stubs.isEmpty then []
  else ["", indented 4 "# Unimplemented steps"] ++ stubs.flatMap stubLines

/-- The lines of a test module. -/
def moduleLines (p : Plan) : List String :=
  headerLines p ++ p.imports.map importLine ++ classLines p ++ setupLines p ++
    p.rules.flatMap (fun r => ruleComment r ++ r.scenarios.flatMap testLines) ++
    stubSection p.stubs

/-! ## Lemmas -/

theorem toList_indented (n : Nat) (s : String) :
    (indented n s).toList = List.replicate n ' ' ++ s.toList := by
  simp [indented]

theorem toList_unlines (ls : List String) :
    (unlines ls).toList = ls.flatMap fun l => l.toList ++ ['\n'] := by
  simp [unlines, List.flatMap_map]

theorem toList_unlines_append (ls ms : List String) :
    (unlines (ls ++ ms)).toList = (unlines ls).toList ++ (unlines ms).toList := by
  simp only [toList_unlines, List.flatMap_append]

theorem toList_unlines_flatMap {α : Type} (f : α → List String) (as : List α) :
    (unlines (as.flatMap f)).toList = as.flatMap fun a => (unlines (f a)).toList := by
  simp only [toList_unlines, List.flatMap_assoc]

/-- Elements with commas between them are the texts with commas between them. -/
theorem toList_listed {α : Type} {f : α → Element} {g : α → String}
    (h : ∀ a, (f a).chars = (g a).toList) (as : List α) :
    (listed (as.map g)).toList = written (commas (as.map f)) := by
  rw [Template.written_commas, listed, String.toList_intercalate, List.map_map, List.map_map]
  simp only [Function.comp_def, h]

/-- **A documentation string on lines of its own.** -/
theorem toList_docstring (n : Nat) {blanks : String}
    (hblanks : blanks.toList = List.replicate n ' ') (first : String) (others : List String) :
    (unlines (docstringLines n first others)).toList =
      blanks.toList ++ ((Element.documentation ([.free first, .fixed "\n"] ++
        docLines blanks others ++ [.fixed blanks])).chars ++ ['\n']) := by
  have hmark : docMark.toList = Element.tripleQuote := rfl
  cases others with
  | nil =>
    simp [docstringLines, toList_unlines, toList_indented, Element.chars, docLines, DocPart.chars,
      hblanks, hmark]
  | cons line others =>
    simp [docstringLines, toList_unlines, toList_indented, Element.chars, docLines, DocPart.chars,
      hblanks, hmark, List.flatMap_map, List.flatMap_assoc]

/-! ### Steps -/

theorem chars_cellText (cell : Option String) :
    (cellElement cell).chars = (cellText cell).toList := by
  cases cell <;> rfl

theorem toList_rowText (row : List (Option String)) :
    (rowText row).toList = '[' :: (written (commas (row.map cellElement)) ++ [']']) := by
  simp [rowText, toList_listed chars_cellText]

theorem toList_tableLines (t : Table) :
    (unlines (tableLines t)).toList = written (tableElements t) := by
  simp [tableLines, toList_unlines, toList_indented, tableElements, tableExpression, Element.chars,
    toList_rowText, rowElements, written_flatMap, List.flatMap_map, List.replicate]

theorem toList_callText (s : Step) : (callText s).toList =
    (ownerText s).toList ++ '.' :: (s.method.toList ++
      '(' :: (written (commas (s.arguments.map argumentElement)) ++ [')'])) := by
  simp [callText, toList_listed Template.chars_argumentElement]

/-- **The block of a step.** -/
theorem toList_blockLines (s : Step) :
    (unlines (blockLines s)).toList = written (stepElements s ++ [.code "\n"]) := by
  have htable : (unlines ((s.table.map tableLines).getD [])).toList =
      written ((s.table.map tableElements).getD []) := by
    cases s.table with
    | none => rfl
    | some t => exact toList_tableLines t
  rw [blockLines, toList_unlines_append, toList_unlines_append, htable]
  simp [stepElements, toList_unlines, toList_indented, toList_callText, Element.chars,
    List.replicate]

theorem toList_blocks (ss : List Step) :
    (unlines (ss.flatMap blockLines)).toList = written (stepsElements ss) := by
  rw [toList_unlines_flatMap, stepsElements, written_flatMap]
  simp only [toList_blockLines]

/-! ### Methods -/

theorem toList_methodHead (name : String) (ps : List Parameter) :
    (methodHead name ps).toList = "    def ".toList ++ (name.toList ++ ("(self".toList ++
      (written (parameterElements ps) ++ "):".toList))) := by
  have hself : (listed ("self" :: ps.map fun x => x.name ++ ": " ++ x.kind.typeName)).toList =
      "self".toList ++ written (parameterElements ps) := by
    rw [listed, String.toList_intercalate, List.map_cons, intercalate_cons, parameterElements,
      written_flatMap]
    simp [List.flatMap_map, Element.chars]
  rw [methodHead, toList_indented]
  simp [hself, List.replicate]

theorem toList_parametrizeLines (s : Scenario) :
    (unlines (parametrizeLines s)).toList = written (casesElements s) := by
  have hnames : ∀ x : Parameter, (Element.markup x.name).chars = (quoteMarkup x.name).toList :=
    fun _ => rfl
  simp [parametrizeLines, toList_unlines, toList_indented, casesElements, Element.chars,
    toList_listed hnames, Template.toList_caseText, caseElements, written_flatMap, List.flatMap_map,
    List.replicate]

/-- **The method of a scenario.** -/
theorem toList_testLines (s : Scenario) :
    (unlines (testLines s)).toList = written (scenarioElements s) := by
  have hskip : (unlines (if s.isExplicit then [skipLine] else [])).toList =
      written (if s.isExplicit then
        [.code "    @pytest.mark.skip(reason=\"explicit scenario, run on demand\")\n"] else []) := by
    cases s.isExplicit <;> rfl
  have hcases : (unlines (if s.parameters.isEmpty then [] else parametrizeLines s)).toList =
      written (if s.parameters.isEmpty then [] else casesElements s) := by
    cases s.parameters.isEmpty
    · exact toList_parametrizeLines s
    · rfl
  have hblanks : "        ".toList = List.replicate 8 ' ' := rfl
  have hdoc := toList_docstring 8 hblanks s.name s.remarks
  simp only [testLines, toList_unlines_append, hskip, hcases, hdoc, toList_blocks]
  simp [scenarioElements, toList_unlines, toList_methodHead, Element.chars]

/-! ### Rules and stubs -/

/-- **A rule with its scenarios.** -/
theorem toList_rule (r : Rule) :
    (unlines (ruleComment r ++ r.scenarios.flatMap testLines)).toList =
      written (ruleElements r) := by
  have hdescription : (unlines (if r.description = "" then []
        else (splitAt '\n' r.description.toList).map fun line =>
          indented 4 ("# " ++ .ofList line))).toList =
      written (if r.description = "" then []
        else (splitAt '\n' r.description.toList).map fun line => .comment 4 (.ofList line)) := by
    by_cases h : r.description = ""
    · rw [if_pos h, if_pos h]
      rfl
    · rw [if_neg h, if_neg h, toList_unlines, written, List.flatMap_map, List.flatMap_map]
      simp only [toList_indented, String.toList_append, String.toList_ofList, Element.chars]
      rfl
  rw [ruleComment, ruleElements, toList_unlines_append, toList_unlines_append, hdescription,
    toList_unlines_flatMap, written_append, written_append, written_flatMap]
  simp only [toList_testLines]
  simp [toList_unlines, toList_indented, Element.chars, List.replicate]

theorem toList_stubLines (s : Stub) :
    (unlines (stubLines s)).toList = written (stubElements s) := by
  simp [stubLines, toList_unlines, toList_indented, toList_methodHead, stubElements, Element.chars,
    List.replicate]

theorem toList_stubSection (stubs : List Stub) :
    (unlines (stubSection stubs)).toList = written (stubsElements stubs) := by
  unfold stubSection stubsElements
  cases stubs.isEmpty with
  | true => rfl
  | false =>
    show (unlines (["", indented 4 "# Unimplemented steps"] ++ stubs.flatMap stubLines)).toList =
      written (.code "\n    # Unimplemented steps\n" :: stubs.flatMap stubElements)
    rw [toList_unlines_append, toList_unlines_flatMap]
    simp only [toList_stubLines, written, List.flatMap_cons, List.flatMap_assoc]
    rfl

/-! ### The module -/

theorem toList_header (p : Plan) : (unlines (headerLines p ++ p.imports.map importLine)).toList =
    written (openingElements p) := by
  have himports : (unlines (p.imports.map importLine)).toList = written (p.imports.flatMap fun m =>
      [.code "from ", .code m, .code " import *  # noqa: F401,F403\n"]) := by
    simp [toList_unlines, importLine, written_flatMap, List.flatMap_map, Element.chars]
  have hmark : docMark.toList = Element.tripleQuote := rfl
  rw [toList_unlines_append, himports, openingElements, written_append]
  simp [headerLines, toList_unlines, hmark, Element.chars, DocPart.chars]

theorem toList_classLines (p : Plan) :
    (unlines (classLines p)).toList = written (classElements p) ++ ['\n'] := by
  have hbase : (if p.baseClass = "" then "" else "(" ++ p.baseClass ++ ")" : String).toList =
      written (if p.baseClass = "" then [] else [.code "(", .code p.baseClass, .code ")"]) := by
    by_cases h : p.baseClass = ""
    · rw [if_pos h, if_pos h]
      rfl
    · rw [if_neg h, if_neg h]
      simp [Element.chars]
  have hblanks : "    ".toList = List.replicate 4 ' ' := rfl
  have hdoc := toList_docstring 4 hblanks p.featureName p.description
  rw [classLines, toList_unlines_append, hdoc]
  simp [toList_unlines, classElements, hbase, Element.chars]

theorem toList_setupLines (p : Plan) :
    '\n' :: (unlines (setupLines p)).toList = written (setupElements p) := by
  have hobjects : (unlines (p.classes.map objectLine)).toList = written (p.classes.flatMap fun c =>
      [.code "        self.", .code c, .code " = ", .code c, .code "(self)\n"]) := by
    simp [toList_unlines, objectLine, toList_indented, written_flatMap, List.flatMap_map,
      Element.chars, List.replicate]
  have hbackground :
      (unlines ((p.background.map fun ss => "" :: ss.flatMap blockLines).getD [])).toList =
      written ((p.background.map fun ss => .code "\n" :: stepsElements ss).getD []) := by
    cases p.background with
    | none => rfl
    | some ss =>
      have hsteps := toList_blocks ss
      rw [toList_unlines] at hsteps
      simp [toList_unlines, hsteps, Element.chars]
  have hmark : docMark.toList = Element.tripleQuote := rfl
  rw [setupLines, toList_unlines_append, toList_unlines_append, hobjects, hbackground]
  simp [setupElements, toList_unlines, toList_indented, hmark, Element.chars, DocPart.chars,
    List.replicate]

/-- The lines of the rules. -/
theorem toList_rules (rs : List Rule) :
    (unlines (rs.flatMap fun r => ruleComment r ++ r.scenarios.flatMap testLines)).toList =
      written (rs.flatMap ruleElements) := by
  rw [toList_unlines_flatMap, written_flatMap]
  simp only [toList_rule]

/-- **The lines of the module are the elements of its plan.** -/
theorem toList_moduleLines (p : Plan) :
    (unlines (moduleLines p)).toList = written (elements p) := by
  -- the line break that ends the class head is the first character of the setup method
  have hsetup : written (classElements p) ++ ['\n'] ++ (unlines (setupLines p)).toList =
      written (classElements p) ++ written (setupElements p) := by
    rw [← toList_setupLines, List.append_assoc, List.singleton_append]
  calc (unlines (moduleLines p)).toList
    _ = written (openingElements p) ++
          (written (classElements p) ++ ['\n'] ++ (unlines (setupLines p)).toList) ++
          written (p.rules.flatMap ruleElements) ++ written (stubsElements p.stubs) := by
        simp only [moduleLines, toList_unlines_append, ← toList_header, toList_classLines,
          toList_rules, toList_stubSection, List.append_assoc]
    _ = written (elements p) := by
        simp only [hsetup, elements, written_append, List.append_assoc]

/-! ## Top theorem -/

/-- **A plan is laid out in its own order.**  Rendering the bundled template gives the lines of the
module: each import, step object, step, rule, scenario, row of values and stub once, one behind the
other. -/
theorem render_in_order (p : Plan) :
    p.render Template.bundled = .ok (unlines (moduleLines p)) := by
  rw [Template.render_bundled, ← toList_moduleLines, String.ofList_toList]

end Acceptance.Plan
