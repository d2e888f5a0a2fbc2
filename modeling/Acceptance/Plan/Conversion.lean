import Acceptance.Plan.Steps
import Acceptance.Plan.Tags

/-!
# The plan of a feature

A plan is made of every feature; whether it may be used is a question of its own.  The feature is
tried part by part: its tags, its backgrounds, then its rules and scenarios as they stand, in a
scenario the tables of values before the steps.  The first fault stops the conversion.

    plan c fileName f                    the plan of a feature
    faults c f                           its faults in the order of the trials
    convert c fileName d = .ok p         the plan of a document whose feature has no fault
-/

namespace Acceptance.Plan

open Acceptance.Text

/-! ## Texts -/

/-- The lines of a description that are not blank, without blanks around them. -/
def descriptionLines (description : String) : List String :=
  ((lines description).map strip).filter (· != "")

/-! ## Examples -/

/-- The columns of the first table of values with a header. -/
def headerOf (examples : List Gherkin.Examples) : List String :=
  match examples.findSome? (·.header) with
  | some row => (cellsOf row).map fun c => c.getD ""
  | none => []

/-- The columns with their parameters. -/
def outlineOf (examples : List Gherkin.Examples) : Outline :=
  let headers := headerOf examples
  (headers.zip (uniqueAll (headers.map parameterName))).map fun (h, p) => ⟨h, p⟩

/-- The rows of values of the tables that have a header. -/
def caseRows (examples : List Gherkin.Examples) : List (List (Option String)) :=
  (examples.filter (·.header.isSome)).flatMap fun e => e.body.map cellsOf

/-- The tables of values whose columns are not those of the first one. -/
def columnFaults (scenario : String) (examples : List Gherkin.Examples) : List Fault :=
  match examples.filterMap (·.header) with
  | [] => []
  | first :: others =>
    (others.filter fun row => cellsOf row != cellsOf first).map fun row =>
      .columns scenario (cellsOf first) (cellsOf row)

/-! ## The scenarios of a document -/

/-- The scenarios of a rule. -/
def ruleScenarios (r : Gherkin.Rule) : List Gherkin.Scenario :=
  r.children.filterMap fun
    | .scenario s => some s
    | .background _ => none

/-- The backgrounds of a feature. -/
def backgrounds (f : Gherkin.Feature) : List Gherkin.Background :=
  f.children.filterMap fun
    | .background b => some b
    | _ => none

/-- The scenarios of a feature in document order. -/
def allScenarios (f : Gherkin.Feature) : List Gherkin.Scenario :=
  f.children.flatMap fun
    | .scenario s => [s]
    | .rule r => ruleScenarios r
    | .background _ => []

/-- The step lines of a feature, those of the backgrounds first. -/
def allOccurrences (f : Gherkin.Feature) : List Occurrence :=
  (backgrounds f).flatMap (fun b => occurrences b.steps) ++
    (allScenarios f).flatMap fun s => occurrences s.steps

/-- The stubs of a feature. -/
def stubsOf (c : Catalog) (f : Gherkin.Feature) : List Stub := Stub.collect c (allOccurrences f)

/-! ## Rules and scenarios -/

/-- The name that a scenario's method asks for. -/
def scenarioName (s : Gherkin.Scenario) : String :=
  .ofList (orElse (joinedWords s.name) "Scenario".toList)

/-- The plan of a scenario under the name of its method. -/
def planScenario (c : Catalog) (stubs : List Stub) (method : String) (s : Gherkin.Scenario) :
    Scenario :=
  let outline := outlineOf s.examples
  { name := s.name, method, remarks := descriptionLines s.description,
    isExplicit := s.tags.contains Gherkin.explicitTag, cases := caseRows s.examples,
    parameters := outline.map fun column => ⟨.text, column.parameter⟩,
    steps := (occurrences s.steps).map fun l => l.plan c stubs outline }

/-- The plans of scenarios behind those with the methods `taken`. -/
def planScenarios (c : Catalog) (stubs : List Stub) (taken : List String) :
    List Gherkin.Scenario → List Scenario
  | [] => []
  | s :: ss =>
    let p := planScenario c stubs (unique (scenarioName s) taken) s
    p :: planScenarios c stubs (p.method :: taken) ss

/-- A planned child of a feature. -/
inductive Planned where
  | rule (r : Rule)
  | bare (s : Scenario)
  deriving Repr, DecidableEq

namespace Planned

def rule? : Planned → Option Rule
  | rule r => some r
  | bare _ => none

def bare? : Planned → Option Scenario
  | rule _ => none
  | bare s => some s

/-- The scenarios of a planned child. -/
def scenarios : Planned → List Scenario
  | rule r => r.scenarios
  | bare s => [s]

end Planned

/-- The plans of the children behind scenarios with the methods `taken`. -/
def planChildren (c : Catalog) (stubs : List Stub) (taken : List String) :
    List Gherkin.Child → List Planned
  | [] => []
  | .background _ :: rest => planChildren c stubs taken rest
  | .scenario s :: rest =>
    let p := planScenario c stubs (unique (scenarioName s) taken) s
    .bare p :: planChildren c stubs (p.method :: taken) rest
  | .rule r :: rest =>
    let ps := planScenarios c stubs taken (ruleScenarios r)
    .rule ⟨r.name, join "\n" (descriptionLines r.description), ps⟩ ::
      planChildren c stubs ((ps.map (·.method)).reverse ++ taken) rest

/-- The name of the rule for the scenarios that stand outside of any. -/
def defaultRuleName : String := "All scenarios"

/-- The rules, those scenarios that stand outside of any in one rule at the place of the first. -/
def gather (bare : List Scenario) : List Planned → List Rule
  | [] => []
  | .rule r :: rest => r :: gather bare rest
  | .bare _ :: rest => ⟨some defaultRuleName, "", bare⟩ :: rest.filterMap Planned.rule?

/-! ## Features -/

/-- The definitions that the lines of a feature are answered by, in the order of the lines. -/
def usedDefinitions (c : Catalog) (f : Gherkin.Feature) : List StepDefinition :=
  (allOccurrences f).filterMap fun l => (l.resolution? c).map (·.definition)

/-- The name of the test class: of the feature, else of the file. -/
def classNameOf (featureName fileName : String) : String :=
  .ofList (orElse (orElse (joinedWords featureName) (joinedWords fileName)) "Feature".toList)

/-- The plan of a feature. -/
def plan (c : Catalog) (fileName : String) (f : Gherkin.Feature) : Plan :=
  let stubs := stubsOf c f
  let children := planChildren c stubs [] f.children
  { imports := distinct (taggedModules f.tags ++
      ((usedDefinitions c f).map (·.module)).filter (· != "")),
    package := packageOf f.tags, fileName, featureName := f.name,
    className := classNameOf f.name fileName, description := descriptionLines f.description,
    baseClass := baseClassOf f.tags, classes := distinct ((usedDefinitions c f).map (·.owner)),
    background := (backgrounds f).getLast?.map fun b =>
      (occurrences b.steps).map fun l => l.plan c stubs [],
    rules := gather (children.filterMap Planned.bare?) children, stubs }

/-! ## Trials -/

/-- A trial that reports nothing. -/
def faultTrial (fault : Fault) : Trial := ⟨[], some fault⟩

def stepTrials (c : Catalog) (stubs : List Stub) (steps : List Gherkin.Step) : List Trial :=
  (occurrences steps).map (·.trial c stubs)

def scenarioTrials (c : Catalog) (stubs : List Stub) (s : Gherkin.Scenario) : List Trial :=
  (columnFaults s.name s.examples).map faultTrial ++ stepTrials c stubs s.steps

def ruleChildTrials (c : Catalog) (stubs : List Stub) (rule : Option String) :
    Gherkin.RuleChild → List Trial
  | .background _ => [faultTrial (.ruleBackground rule)]
  | .scenario s => scenarioTrials c stubs s

def childTrials (c : Catalog) (stubs : List Stub) : Gherkin.Child → List Trial
  | .background _ => []
  | .scenario s => scenarioTrials c stubs s
  | .rule r => r.children.flatMap (ruleChildTrials c stubs r.name)

/-- The trials of a feature in order. -/
def trials (c : Catalog) (f : Gherkin.Feature) : List Trial :=
  let stubs := stubsOf c f
  (f.tags.filterMap tagFault?).map faultTrial ++
    (backgrounds f).flatMap (fun b => stepTrials c stubs b.steps) ++
    f.children.flatMap (childTrials c stubs)

/-- The faults of a feature in order. -/
def faults (c : Catalog) (f : Gherkin.Feature) : List Fault := (trials c f).filterMap (·.fault)

/-- What is reported up to the first fault. -/
def logOf : List Trial → Log
  | [] => []
  | t :: ts => t.log ++ if t.fault.isSome then [] else logOf ts

/-! ## Conversion -/

/-- The plan of a document, or its first fault. -/
def convert (c : Catalog) (fileName : String) : Gherkin.Document → Except Fault Plan
  | none => .ok (.empty fileName)
  | some f =>
    match (faults c f).head? with
    | some fault => .error fault
    | none => .ok (plan c fileName f)

/-- What converting a document reports. -/
def conversionLog (c : Catalog) : Gherkin.Document → Log
  | none => []
  | some f => logOf (trials c f)

end Acceptance.Plan
