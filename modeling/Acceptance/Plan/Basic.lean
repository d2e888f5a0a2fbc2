import Acceptance.Plan.Expression
import Acceptance.Step.Definition

/-!
# Test plans

A test plan holds all that a test module for one feature consists of: the modules it imports, the
class with its base, the objects that hold the step methods, the calls that set up every test, a
method per scenario under its rule, and a method for each missing step.  Names of rules and cells
of tables may be without a value.
-/

namespace Acceptance

namespace Plan

/-- What a parameter of a generated method takes. -/
inductive ParameterKind where
  | text
  | table
  deriving Repr, DecidableEq

def ParameterKind.typeName : ParameterKind → String
  | .text => "str"
  | .table => "DataTable"

structure Parameter where
  kind : ParameterKind
  name : String
  deriving Repr, DecidableEq

/-- A value that a step call passes: the text of the step it stands for, and the expression. -/
structure Argument where
  value : String
  expression : Expression
  deriving Repr, DecidableEq

/-- A data table under its variable. -/
structure Table where
  variableName : String
  headers : List (Option String)
  rows : List (List (Option String))
  deriving Repr, DecidableEq

/-- A step line: the call of a method of `owner`. -/
structure Step where
  keyword : String
  text : String
  owner : String
  method : String
  arguments : List Argument
  table : Option Table
  deriving Repr, DecidableEq

/-- The object that the generated methods belong to. -/
def selfOwner : String := "self"

/-- Whether a step calls a method of the test class itself. -/
def Step.isStub (s : Step) : Bool := s.owner == selfOwner

structure Scenario where
  name : String
  method : String
  remarks : List String
  isExplicit : Bool
  /-- The cells of each row of values for the parameters. -/
  cases : List (List (Option String))
  parameters : List Parameter
  steps : List Step
  deriving Repr, DecidableEq

structure Rule where
  name : Option String
  description : String
  scenarios : List Scenario
  deriving Repr, DecidableEq

/-- The method that stands in for a missing step method. -/
structure Stub where
  kind : StepKind
  text : String
  method : String
  parameters : List Parameter
  deriving Repr, DecidableEq

def Stub.takesTable (s : Stub) : Bool := s.parameters.any (·.kind == .table)

end Plan

/-- The plan of the test module of one feature. -/
structure Plan where
  imports : List String
  package : String
  fileName : String
  featureName : String
  className : String
  description : List String
  baseClass : String
  classes : List String
  background : Option (List Plan.Step)
  rules : List Plan.Rule
  stubs : List Plan.Stub
  deriving Repr, DecidableEq

namespace Plan

/-- The plan of a file without a feature. -/
def empty (fileName : String) : Plan :=
  { imports := [], package := "", fileName, featureName := "", className := "", description := [],
    baseClass := "", classes := [], background := none, rules := [], stubs := [] }

/-- The steps of the background, then those of the scenarios. -/
def allSteps (p : Plan) : List Step :=
  p.background.getD [] ++ p.rules.flatMap fun r => r.scenarios.flatMap (·.steps)

end Plan

end Acceptance
