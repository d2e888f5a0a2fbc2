import Acceptance.Plan.Basic

/-!
# Reports

What a run comes to: the test modules it made, and the diagnostics of what went wrong.  A run is a
success when no diagnostic is an error.
-/

namespace Acceptance

inductive Severity where
  | error
  | warning
  deriving Repr, DecidableEq

namespace Severity

def name : Severity → String
  | error => "error"
  | warning => "warning"

def ofName? (s : String) : Option Severity := [error, warning].find? fun v => v.name == s

end Severity

/-- A problem that a run came upon. -/
structure Diagnostic where
  code : String
  severity : Severity
  message : String
  sourceFile : Option String
  deriving Repr, DecidableEq

/-- A diagnostic on one line. -/
def Diagnostic.text (d : Diagnostic) : String :=
  (match d.sourceFile with
    | some f => if f = "" then "" else f ++ ": "
    | none => "") ++ d.severity.name ++ " " ++ d.code ++ ": " ++ d.message

/-- A test module that was made. -/
structure GeneratedFile where
  featureFile : String
  outputPath : String
  code : String
  plan : Plan
  deriving Repr, DecidableEq

structure Report where
  files : List GeneratedFile
  diagnostics : List Diagnostic
  deriving Repr, DecidableEq

namespace Report

def empty : Report := ⟨[], []⟩

def errors (r : Report) : List Diagnostic := r.diagnostics.filter (·.severity == .error)

def warnings (r : Report) : List Diagnostic := r.diagnostics.filter (·.severity == .warning)

def isSuccess (r : Report) : Bool := r.errors.isEmpty

end Report

end Acceptance
