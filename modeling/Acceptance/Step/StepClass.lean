import Acceptance.Step.Definition

/-!
# Step classes

A step class described by its members rather than read from a source text.  A marker adds a
registration in front of those that a function has, so that markers put on from the last line to
the first leave them in the order of the lines.  A wrapper hides what is marked on top of it.

    register f m = registrations of f with that of m in front
    StepClass.definitions c           a definition per registration, members in order
-/

namespace Acceptance

/-! ## Markers -/

/-- What a marker registers a function for. -/
structure Registration where
  kind : StepKind
  pattern : String
  deriving Repr, DecidableEq

/-- A marker whose pattern is empty or no text. -/
structure NoPattern where
  kind : StepKind
  deriving Repr, DecidableEq

/-- The name of the marker for a kind of step. -/
def StepKind.marker : StepKind → String
  | .context => "given"
  | .action => "when"
  | .outcome => "then"

/-- The kind of step that a marker stands for. -/
def StepKind.ofMarker? (s : String) : Option StepKind := all.find? fun k => k.marker == s

def NoPattern.message (e : NoPattern) : String :=
  "@" ++ e.kind.marker ++ " requires a non-empty pattern string"

/-- What a marker with a pattern, where it has one that is a text, registers. -/
def Registration.make (kind : StepKind) (pattern : Option String) : Except NoPattern Registration :=
  match pattern with
  | some s => if s = "" then .error ⟨kind⟩ else .ok ⟨kind, s⟩
  | none => .error ⟨kind⟩

/-- The registrations of a function behind one more marker. -/
def register (registrations : List Registration) (r : Registration) : List Registration :=
  r :: registrations

/-- The registrations of a function under markers in the order of their lines. -/
def registerAll (markers : List Registration) : List Registration :=
  markers.reverse.foldl register []

/-! ## Members -/

/-- How a parameter takes its value. -/
inductive ParameterRole where
  | position
  | either
  /-- Takes all further positions. -/
  | rest
  | name
  /-- Takes all further names. -/
  | named
  deriving Repr, DecidableEq

/-- A parameter of a function; the type text is empty where none is written. -/
structure FunctionParameter where
  name : String
  typeName : String
  role : ParameterRole
  hasDefault : Bool
  deriving Repr, DecidableEq

/-- Whether a call has to supply a parameter. -/
def FunctionParameter.isRequired (p : FunctionParameter) : Bool :=
  !p.hasDefault && p.role != .rest && p.role != .named

/-- What a function is wrapped into as a member of a class. -/
inductive Wrapper where
  | plain
  | onClass
  | static
  deriving Repr, DecidableEq

/-- A function as a member of a class, with the markers below and on top of its wrapper. -/
structure Method where
  name : String
  wrapper : Wrapper
  markers : List Registration
  outerMarkers : List Registration
  parameters : List FunctionParameter
  deriving Repr, DecidableEq

namespace Method

/-- The registrations that are seen on a method. -/
def registrations (m : Method) : List Registration :=
  match m.wrapper with
  | .plain => registerAll (m.outerMarkers ++ m.markers)
  | _ => registerAll m.markers

/-- The parameters that a step call has to supply; the object itself is left out. -/
def required (m : Method) : List StepParameter :=
  let behind := if m.wrapper = .static then m.parameters else m.parameters.drop 1
  (behind.filter (·.isRequired)).map fun p => ⟨p.typeName, p.name⟩

end Method

inductive Member where
  | method (m : Method)
  | value (name : String)
  deriving Repr, DecidableEq

def Member.name : Member → String
  | .method m => m.name
  | .value name => name

/-- Puts a member into a class; one of the same name is replaced at its place. -/
def placeMember (members : List Member) (m : Member) : List Member :=
  if members.any fun n => n.name == m.name then
    members.map fun n => if n.name == m.name then m else n
  else members ++ [m]

/-! ## Classes -/

structure StepClass where
  name : String
  module : String
  /-- The members in the order in which they are written. -/
  members : List Member
  deriving Repr, DecidableEq

namespace StepClass

/-- The definitions of a member. -/
def memberDefinitions (c : StepClass) : Member → List StepDefinition
  | .value _ => []
  | .method m =>
    m.registrations.map fun r =>
      { kind := r.kind, pattern := r.pattern, owner := c.name, module := c.module, method := m.name,
        parameters := m.required }

/-- The definitions of a class. -/
def definitions (c : StepClass) : List StepDefinition :=
  (c.members.foldl placeMember []).flatMap c.memberDefinitions

end StepClass

/-! ## Lemmas -/

theorem registerAll_eq (markers : List Registration) : registerAll markers = markers := by
  have h : ∀ (ms acc : List Registration), ms.foldl register acc = ms.reverse ++ acc := by
    intro ms
    induction ms with
    | nil => simp
    | cons m ms ih => simp [register, ih]
  simp [registerAll, h]

end Acceptance
