import Acceptance.Plan.Table
import Acceptance.Step.Catalog

/-!
# Steps of a plan

A step line is matched under the kind of the last line at or before it that has a kind of its own.
A line that some definition answers calls the definition's method with the values of the
placeholders and the data table; one that none answers calls a stub.  There is one stub for each
kind and text, made as the first such line asks for.

    occurrences steps                the lines with their kinds and the numbers of their tables
    Stub.collect c lines             the stubs for the lines that no definition answers
    Occurrence.plan c stubs o line   the step of a line
-/

namespace Acceptance.Plan

open Acceptance.Text

/-! ## Lines -/

/-- A step line with the kind that it is matched under, and the number of its data table. -/
structure Occurrence where
  kind : StepKind
  tableNumber : Nat
  line : Gherkin.Step
  deriving Repr, DecidableEq

/-- The kind that a word stands for, capitals and blanks around it aside. -/
def kindOfWord? (keyword : String) : Option StepKind :=
  StepKind.all.find? fun k => lowerList (trim keyword.toList) == lowerList k.word.toList

/-- The kind of a keyword of its own. -/
def kindOf? (type : Gherkin.KeywordType) (keyword : String) : Option StepKind :=
  match type with
  | .kind k => some k
  | _ => kindOfWord? keyword

/-- The kind of a line of its own. -/
def ownKind? (line : Gherkin.Step) : Option StepKind := kindOf? line.type line.keyword

/-- The lines behind one of kind `current` with `tables` data tables so far. -/
def occurrencesFrom (current : StepKind) (tables : Nat) : List Gherkin.Step → List Occurrence
  | [] => []
  | line :: rest =>
    let kind := (ownKind? line).getD current
    let number := if line.table.isSome then tables + 1 else tables
    ⟨kind, number, line⟩ :: occurrencesFrom kind number rest

/-- The lines of a scenario or a background. -/
def occurrences (steps : List Gherkin.Step) : List Occurrence := occurrencesFrom .context 0 steps

namespace Occurrence

/-- The keyword as written, without blanks around it. -/
def keyword (l : Occurrence) : String := strip l.line.keyword

def hasTable (l : Occurrence) : Bool := l.line.table.isSome

/-- The definition that answers a line. -/
def resolution? (c : Catalog) (l : Occurrence) : Option Resolution :=
  c.resolve? l.kind.word l.line.text

/-- The data table of a line. -/
def table? (l : Occurrence) : Option Table :=
  l.line.table.map fun rows => .of ("table" ++ Decimal.text l.tableNumber) rows

end Occurrence

/-! ## Stubs -/

/-- The parameters of a stub: one for each placeholder, and one for a data table. -/
def stubParameters (text : String) (hasTable : Bool) : List Parameter :=
  let texts := (references text).map fun r => ⟨.text, r.parameter⟩
  if hasTable then texts ++ [⟨.table, unique "table" (texts.map (·.name))⟩] else texts

/-- Whether a stub stands in for a line. -/
def Stub.answers (l : Occurrence) (s : Stub) : Bool := s.kind == l.kind && s.text == l.line.text

/-- Makes a stub for a line unless there is one. -/
def Stub.add (stubs : List Stub) (l : Occurrence) : List Stub :=
  if stubs.any (Stub.answers l) then stubs
  else stubs ++ [⟨l.kind, l.line.text, unique (stubName l.line.text) (stubs.map (·.method)),
    stubParameters l.line.text l.hasTable⟩]

/-- The stubs for the lines that no definition answers. -/
def Stub.collect (c : Catalog) (ls : List Occurrence) : List Stub :=
  (ls.filter fun l => (l.resolution? c).isNone).foldl Stub.add []

/-! ## Calls -/

/-- The arguments of a call of a definition: a value for each placeholder, and the data table. -/
def Resolution.callArguments (r : Resolution) (o : Outline) (table : Option Table) :
    List Argument :=
  let values := (r.arguments.zip r.definition.parameters).map fun (value, p) =>
    (⟨value, .ofText value p.typeName o⟩ : Argument)
  match table with
  | some t =>
    if r.definition.parameters.length = r.arguments.length + 1 then
      values ++ [⟨t.variableName, .named t.variableName⟩]
    else values
  | none => values

/-- The argument for a parameter of a stub. -/
def stubArgument (o : Outline) (text : String) (table : Option Table) (p : Parameter) : Argument :=
  match p.kind with
  | .table =>
    match table with
    | some t => ⟨t.variableName, .named t.variableName⟩
    | none => ⟨Expression.source .nothing, .nothing⟩
  | .text =>
    let column := ((references text).find? fun r => r.parameter == p.name).map (·.column)
    let value := "<" ++ column.getD "" ++ ">"
    ⟨value, .ofText value "str" o⟩

namespace Occurrence

/-- The step of a line that a definition answers. -/
def planMatched (r : Resolution) (o : Outline) (l : Occurrence) : Step :=
  { keyword := l.keyword, text := l.line.text, owner := r.definition.owner,
    method := r.definition.method, arguments := Resolution.callArguments r o l.table?,
    table := l.table? }

/-- The step of a line that a stub stands in for. -/
def planStub (stubs : List Stub) (o : Outline) (l : Occurrence) : Step :=
  let stub := stubs.find? (Stub.answers l)
  { keyword := l.keyword, text := l.line.text, owner := selfOwner,
    method := (stub.map (·.method)).getD "",
    arguments := ((stub.map (·.parameters)).getD []).map (stubArgument o l.line.text l.table?),
    table := l.table? }

/-- The step of a line. -/
def plan (c : Catalog) (stubs : List Stub) (o : Outline) (l : Occurrence) : Step :=
  match l.resolution? c with
  | some r => l.planMatched r o
  | none => l.planStub stubs o

end Occurrence

/-! ## Faults and reports -/

/-- What making a part of a plan reports, and the fault that stops it. -/
structure Trial where
  log : Log
  fault : Option Fault
  deriving Repr, DecidableEq

/-- The number of values that a line supplies. -/
def supplied (r : Resolution) (l : Occurrence) : Nat :=
  r.arguments.length + if l.hasTable then 1 else 0

/-- The fault of a call with too many or too few values. -/
def arityFault? (r : Resolution) (l : Occurrence) : Option Fault :=
  if supplied r l = r.definition.parameters.length then none
  else some (.arity l.keyword l.line.text r.definition.qualifiedMethod
    r.definition.parameters.length (supplied r l))

/-- What is reported where a stub was made for a line with a table and serves one without, or the
other way round. -/
def stubRecord (stub : Stub) (l : Occurrence) : Log :=
  if stub.takesTable == l.hasTable then []
  else [⟨.debug, .converter, "Stub " ++ stub.method ++ " was generated " ++
    (if stub.takesTable then "with" else "without") ++ " a table; '" ++ l.keyword ++ " " ++
    l.line.text ++ "' " ++ (if l.hasTable then "has" else "lacks") ++ " one here"⟩]

/-- Trying a line: its table comes before its definition. -/
def Occurrence.trial (c : Catalog) (stubs : List Stub) (l : Occurrence) : Trial :=
  match l.line.table.bind raggedFault? with
  | some fault => ⟨[], some fault⟩
  | none =>
    match l.resolution? c with
    | some r => ⟨c.ambiguity l.kind.word l.line.text, arityFault? r l⟩
    | none => ⟨((stubs.find? (Stub.answers l)).map fun s => stubRecord s l).getD [], none⟩

end Acceptance.Plan
