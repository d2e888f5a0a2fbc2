import Acceptance.Gherkin.Document
import Acceptance.Json.Basic

/-!
# Documents as trees

The exchange form of a document: objects with the members `feature`, `children`, `steps` and so
on.  Absent tables have no member.
-/

namespace Acceptance.Gherkin

/-! ## Writing -/

def KeywordType.name : KeywordType → String
  | .kind .context => "Context"
  | .kind .action => "Action"
  | .kind .outcome => "Outcome"
  | .conjunction => "Conjunction"
  | .unknown => "Unknown"

def optional (name : String) (v : Option Json) : List (String × Json) :=
  (v.map fun v => (name, v)).toList

def textOrNull (s : Option String) : Json := (s.map Json.str).getD .null

def tagsTree (tags : List String) : Json := .arr (tags.map fun t => .obj [("name", .str t)])

def Cell.tree (c : Cell) : Json := .obj [("value", textOrNull c.value)]

def rowTree (r : Row) : Json := .obj [("cells", .arr (r.map Cell.tree))]

def rowsTree (rows : List Row) : Json := .arr (rows.map rowTree)

def Step.tree (s : Step) : Json :=
  .obj ([("keyword", .str s.keyword), ("keywordType", .str s.type.name), ("text", .str s.text)] ++
    optional "dataTable" (s.table.map fun rows => .obj [("rows", rowsTree rows)]))

def Background.tree (b : Background) : Json :=
  .obj [("keyword", .str b.keyword), ("name", .str b.name), ("description", .str b.description),
    ("steps", .arr (b.steps.map Step.tree))]

def Examples.tree (e : Examples) : Json :=
  .obj ([("tags", tagsTree e.tags), ("keyword", .str e.keyword), ("name", .str e.name),
    ("description", .str e.description)] ++ optional "tableHeader" (e.header.map rowTree) ++
    [("tableBody", rowsTree e.body)])

def Scenario.tree (s : Scenario) : Json :=
  .obj [("tags", tagsTree s.tags), ("keyword", .str s.keyword), ("name", .str s.name),
    ("description", .str s.description), ("steps", .arr (s.steps.map Step.tree)),
    ("examples", .arr (s.examples.map Examples.tree))]

def RuleChild.tree : RuleChild → Json
  | .background b => .obj [("background", b.tree)]
  | .scenario s => .obj [("scenario", s.tree)]

def Rule.tree (r : Rule) : Json :=
  .obj [("tags", tagsTree r.tags), ("keyword", .str r.keyword), ("name", textOrNull r.name),
    ("description", .str r.description), ("children", .arr (r.children.map RuleChild.tree))]

def Child.tree : Child → Json
  | .background b => .obj [("background", b.tree)]
  | .scenario s => .obj [("scenario", s.tree)]
  | .rule r => .obj [("rule", r.tree)]

def Feature.tree (f : Feature) : Json :=
  .obj [("tags", tagsTree f.tags), ("language", .str f.language), ("keyword", .str f.keyword),
    ("name", .str f.name), ("description", .str f.description),
    ("children", .arr (f.children.map Child.tree))]

/-- The tree of a document; an empty one has no feature. -/
def Document.tree (d : Document) : Json := .obj (optional "feature" (d.map Feature.tree))

end Acceptance.Gherkin
