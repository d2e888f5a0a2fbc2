import Acceptance.Gherkin.Grammar

/-!
# Nodes of a feature file

While a file is read, each open node collects its tokens and the parts that were closed inside
it.  Closing a node makes a part of it; a table whose rows differ in width is no part.
-/

namespace Acceptance.Gherkin

/-! ## Parts -/

/-- The title of a feature or a rule, with what stands in front of it and below. -/
structure Header where
  tags : List String
  language : String
  keyword : String
  name : String
  description : String
  deriving Repr

/-- What a closed node amounts to. -/
inductive Part where
  | tags (names : List String)
  | description (text : String)
  | header (h : Header)
  | docString
  | table (rows : List Row)
  | examplesTable (rows : List Row)
  | step (s : Step)
  | background (b : Background)
  | scenario (s : Scenario)
  | examples (e : Examples)
  | rule (r : Rule)
  | feature (f : Feature)
  deriving Repr

/-- A token with its place in the file. -/
structure Placed where
  token : Token
  line : Nat
  column : Nat
  deriving Repr

/-- An open node, with its tokens and parts in reverse order. -/
structure Node where
  kind : NodeKind
  tokens : List Placed
  parts : List Part
  deriving Repr

namespace Node

def empty (kind : NodeKind) : Node := ⟨kind, [], []⟩

/-! ## What a node holds, in order -/

def tagNames (n : Node) : List String :=
  n.tokens.reverse.flatMap fun p => match p.token with | .tags names => names | _ => []

def titles (n : Node) : List (String × String × String) :=
  n.tokens.reverse.filterMap fun p =>
    match p.token with
    | .title l k t => some (l, k, t)
    | _ => none

def otherLines (n : Node) : List String :=
  n.tokens.reverse.filterMap fun p => match p.token with | .other t => some t | _ => none

/-- The rows of a table with their places. -/
def placedRows (n : Node) : List (List String × Nat × Nat) :=
  n.tokens.reverse.filterMap fun p =>
    match p.token with | .row cells => some (cells, p.line, p.column) | _ => none

def partTags (n : Node) : List String :=
  (n.parts.reverse.findSome? fun | .tags names => some names | _ => none).getD []

def partDescription (n : Node) : String :=
  (n.parts.reverse.findSome? fun | .description t => some t | _ => none).getD ""

def partHeader? (n : Node) : Option Header :=
  n.parts.reverse.findSome? fun | .header h => some h | _ => none

def partTable? (n : Node) : Option (List Row) :=
  n.parts.reverse.findSome? fun | .table rows => some rows | _ => none

def partExamplesTable? (n : Node) : Option (List Row) :=
  n.parts.reverse.findSome? fun | .examplesTable rows => some rows | _ => none

def partSteps (n : Node) : List Step :=
  n.parts.reverse.filterMap fun | .step s => some s | _ => none

def partExamples (n : Node) : List Examples :=
  n.parts.reverse.filterMap fun | .examples e => some e | _ => none

def partBackgrounds (n : Node) : List Background :=
  n.parts.reverse.filterMap fun | .background b => some b | _ => none

def partScenarios (n : Node) : List Scenario :=
  n.parts.reverse.filterMap fun | .scenario s => some s | _ => none

def partRules (n : Node) : List Rule :=
  n.parts.reverse.filterMap fun | .rule r => some r | _ => none

/-! ## Closing a node -/

/-- The first row that is not as wide as the row in front of all others. -/
def raggedRow? (rows : List (List String × Nat × Nat)) : Option (List String × Nat × Nat) :=
  match rows with
  | [] => none
  | first :: rest => rest.find? fun r => r.1.length != first.1.length

/-- The rows of a table, which must be of one width. -/
def rows (n : Node) : Except Fault (List Row) :=
  match raggedRow? n.placedRows with
  | some (_, line, column) => .error (.raggedTable line column)
  | none => .ok (n.placedRows.map fun r => r.1.map fun value => ⟨some value⟩)

/-- The lines of a description, without empty ones behind the last that says something. -/
def descriptionText (n : Node) : String :=
  "\n".intercalate (n.otherLines.reverse.dropWhile (·.isEmpty)).reverse

def header? (n : Node) : Option Header :=
  n.titles.head?.map fun (language, keyword, name) =>
    ⟨n.partTags, language, keyword, name, n.partDescription⟩

def step? (n : Node) : Option Step :=
  n.tokens.reverse.findSome? fun p =>
    match p.token with
    | .step keyword type text => some ⟨keyword, type, text, n.partTable?⟩
    | _ => none

def scenario? (n : Node) : Option Scenario :=
  n.titles.head?.map fun (_, keyword, name) =>
    ⟨[], keyword, name, n.partDescription, n.partSteps, n.partExamples⟩

def examples? (n : Node) : Option Examples :=
  n.titles.head?.map fun (_, keyword, name) =>
    let rows := n.partExamplesTable?.getD []
    ⟨[], keyword, name, n.partDescription, rows.head?, rows.drop 1⟩

def background? (n : Node) : Option Background :=
  n.titles.head?.map fun (_, keyword, name) => ⟨keyword, name, n.partDescription, n.partSteps⟩

def rule? (n : Node) : Option Rule :=
  n.partHeader?.map fun h =>
    ⟨h.tags, h.keyword, some h.name, h.description,
      n.partBackgrounds.map .background ++ n.partScenarios.map .scenario⟩

def feature? (n : Node) : Option Feature :=
  n.partHeader?.map fun h =>
    ⟨h.tags, h.language, h.keyword, h.name, h.description,
      n.partBackgrounds.map .background ++ n.partScenarios.map .scenario ++ n.partRules.map .rule⟩

/-- What a node amounts to when it is closed. -/
def close (n : Node) : Except Fault (Option Part) :=
  match n.kind with
  | .tags => .ok (some (.tags n.tagNames))
  | .description => .ok (some (.description n.descriptionText))
  | .featureHeader | .ruleHeader => .ok (n.header?.map .header)
  | .docString => .ok (some .docString)
  | .dataTable => n.rows.map fun rows => some (.table rows)
  | .examplesTable => n.rows.map fun rows => some (.examplesTable rows)
  | .step => .ok (n.step?.map .step)
  | .background => .ok (n.background?.map .background)
  | .scenario => .ok (n.scenario?.map .scenario)
  | .scenarioDefinition =>
    .ok (n.partScenarios.head?.map fun s => .scenario { s with tags := n.partTags })
  | .examples => .ok (n.examples?.map .examples)
  | .examplesDefinition =>
    .ok (n.partExamples.head?.map fun e => .examples { e with tags := n.partTags })
  | .rule => .ok (n.rule?.map .rule)
  | .feature => .ok (n.feature?.map .feature)

end Node

end Acceptance.Gherkin
