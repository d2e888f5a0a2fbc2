import Acceptance.Source.Printer
import Acceptance.Source.Statement
import Acceptance.Step.Definition
import Acceptance.Text.Case

/-!
# Step methods of a source

A step method is a function right inside a class that is marked with a call of `given`, `when` or
`then` whose first value is a text.  Each marker gives one definition, in the order written.  The
definition's parameters are those that a call has to supply: the ones without a default, the
object itself left out.

    definitionsIn module body        the definitions of the classes of a module, nested ones too
-/

namespace Acceptance.Source

open Acceptance.Text

/-! ## Markers -/

/-- The kind of step that a marker's name stands for; `given_step` is as good as `given`. -/
def markerKind? (name : String) : Option StepKind :=
  let cs := lowerList name.toList
  let ending := "_step".toList
  let word := if ending.isSuffixOf cs then cs.take (cs.length - ending.length) else cs
  StepKind.all.find? fun k => lowerList k.word.toList == word

/-- The kind and the pattern that a decorator registers. -/
def registration? : Expr → Option (StepKind × String)
  | .call function (.text pattern _ :: _) _ =>
    let kind := match function with
      | .name n => markerKind? n
      | .attribute _ n => markerKind? n
      | _ => none
    if pattern.isEmpty then none else kind.map fun k => (k, pattern)
  | _ => none

/-! ## Parameters -/

def Expr.isStatic : Expr → Bool
  | .name "staticmethod" => true
  | _ => false

/-- A parameter as a step definition keeps it. -/
def Parameter.declared (p : Parameter) : StepParameter :=
  ⟨(p.note.map print).getD "", p.name⟩

def Parameter.isRequired (p : Parameter) : Bool := p.default.isNone

/-- The parameters that a step call has to supply. -/
def requiredParameters (isStatic : Bool) (ps : Parameters) : List StepParameter :=
  let positions := ps.positional.filter Parameter.isRequired
  ((if isStatic then positions else positions.drop 1) ++
    ps.nameOnly.filter Parameter.isRequired).map Parameter.declared

/-! ## Definitions -/

/-- The definitions of one method. -/
def methodDefinitions (module owner method : String) (decorators : List Expr) (ps : Parameters) :
    List StepDefinition :=
  (decorators.filterMap registration?).map fun (kind, pattern) =>
    { kind, pattern, owner, module, method,
      parameters := requiredParameters (decorators.any Expr.isStatic) ps }

mutual

/-- The definitions of a statement inside a class, or outside of any. -/
def statementDefinitions (module : String) (owner : Option String) : Stmt → List StepDefinition
  | .classDef name _ body => bodyDefinitions module (some name) body
  | .functionDef name decorators ps _ =>
    match owner with
    | some owner => methodDefinitions module owner name decorators ps
    | none => []
  | .simple => []
  | .compound _ => []

def bodyDefinitions (module : String) (owner : Option String) : List Stmt → List StepDefinition
  | [] => []
  | s :: ss => statementDefinitions module owner s ++ bodyDefinitions module owner ss

end

/-- The definitions of a source text; none where it is no source text. -/
def analyze (text module : String) : Option (List StepDefinition) :=
  (readSource text).map (bodyDefinitions module none)

end Acceptance.Source
