/-!
# Step definitions

A step definition binds a method of a step class to a pattern of step texts.  Its kind is what the
step lines it answers establish: a context, an action or an outcome.
-/

namespace Acceptance

/-- What a step line establishes. -/
inductive StepKind where
  | context
  | action
  | outcome
  deriving Repr, DecidableEq

namespace StepKind

def all : List StepKind := [.context, .action, .outcome]

/-- The word a step definition of this kind is registered under. -/
def word : StepKind → String
  | context => "Given"
  | action => "When"
  | outcome => "Then"

/-- The kind registered under a word, capitals included. -/
def ofWord? (s : String) : Option StepKind := all.find? fun k => k.word == s

theorem ofWord?_word (k : StepKind) : ofWord? k.word = some k := by
  cases k <;> decide

end StepKind

/-- A declared parameter of a step method; the type text is empty where none is written. -/
structure StepParameter where
  typeName : String
  name : String
  deriving Repr, DecidableEq

/-- A step method bound to a pattern. -/
structure StepDefinition where
  kind : StepKind
  pattern : String
  owner : String
  module : String
  method : String
  parameters : List StepParameter
  deriving Repr, DecidableEq

/-- The method with its class, as messages name it. -/
def StepDefinition.qualifiedMethod (d : StepDefinition) : String := d.owner ++ "." ++ d.method

/-- A word that registers no kind of step. -/
structure UnknownKind where
  word : String
  deriving Repr, DecidableEq

def UnknownKind.message (e : UnknownKind) : String := "Invalid step keyword: " ++ e.word

/-- A definition from the word it is registered under. -/
def StepDefinition.register (word pattern owner module method : String)
    (parameters : List StepParameter) : Except UnknownKind StepDefinition :=
  match StepKind.ofWord? word with
  | some kind => .ok { kind, pattern, owner, module, method, parameters }
  | none => .error ⟨word⟩

end Acceptance
