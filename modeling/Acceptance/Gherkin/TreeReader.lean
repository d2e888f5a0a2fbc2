import Acceptance.Gherkin.Tree
import Acceptance.Json.Reader

/-!
# Reading trees

A tree from elsewhere may lack members, or hold values of the wrong kind.  It is read in the order
in which it is used: name, description and tags of the feature, its backgrounds, then its rules
and scenarios, in a scenario the tables of values before the steps.  Reading stops at the first
defect and keeps what was read before it, so that a fault in front of the defect is still found.

    (documentOf v).value         the document as far as it can be read
    (documentOf v).defect        where reading stops
-/

namespace Acceptance.Gherkin

/-- Why a tree cannot be read on. -/
inductive Defect where
  /-- A member that must be there. -/
  | missing (member : String)
  /-- A value that cannot be walked through, looked into or split. -/
  | wrongKind
  /-- A value that is no object or no text where one is asked. -/
  | noField
  deriving Repr, DecidableEq

/-- What was read, and the defect that stopped it. -/
structure Portion (α : Type) where
  value : α
  defect : Option Defect

namespace Portion

def map {α β : Type} (f : α → β) (r : Portion α) : Portion β := ⟨f r.value, r.defect⟩

end Portion

/-! ## Looking into a value -/

/-- What a value is walked through as. -/
def itemsOf : Json → Except Defect (List Json)
  | .arr items => .ok items
  | .obj members => .ok (members.map fun m => .str m.1)
  | .str s => .ok (s.toList.map fun c => .str (.ofList [c]))
  | _ => .error .wrongKind

/-- A member that must be there. -/
def memberOf (v : Json) (name : String) : Except Defect Json :=
  match v with
  | .obj _ =>
    match v.member? name with
    | some w => .ok w
    | none => .error (.missing name)
  | _ => .error .wrongKind

/-- A member, or a value in its place. -/
def memberOr (v : Json) (name : String) (other : Json) : Except Defect Json :=
  match v with
  | .obj _ => .ok ((v.member? name).getD other)
  | _ => .error .noField

def isTextOf (s : String) : Json → Bool
  | .str t => s == t
  | _ => false

/-- Whether a text occurs in another. -/
def occurs (part : List Char) : List Char → Bool
  | [] => part.isEmpty
  | c :: cs => part.isPrefixOf (c :: cs) || occurs part cs

/-- Whether a value has a member, an item or a part. -/
def holds (v : Json) (name : String) : Except Defect Bool :=
  match v with
  | .obj _ => .ok (v.member? name).isSome
  | .arr items => .ok (items.any (isTextOf name))
  | .str s => .ok (occurs name.toList s.toList)
  | _ => .error .wrongKind

/-- A text, or a defect in its place. -/
def textOf (d : Defect) : Json → Except Defect String
  | .str s => .ok s
  | _ => .error d

def textOf? : Json → Option String
  | .str s => some s
  | _ => none

/-- The items of a member that may be absent. -/
def listOf (v : Json) (name : String) : Except Defect (List Json) := do
  itemsOf (← memberOr v name (.arr []))

/-! ## Reading on -/

/-- Reads items until the first defect; an item may be read in part, or not at all. -/
def readAll {α : Type} (f : Json → Portion (Option α)) : List Json → Portion (List α)
  | [] => ⟨[], none⟩
  | v :: vs =>
    let r := f v
    match r.defect with
    | some d => ⟨r.value.toList, some d⟩
    | none =>
      let rest := readAll f vs
      ⟨r.value.toList ++ rest.value, rest.defect⟩

/-- An item that is read whole or not at all. -/
def whole {α : Type} : Except Defect α → Portion (Option α)
  | .ok a => ⟨some a, none⟩
  | .error d => ⟨none, some d⟩

/-- Reads the items of a member that may be absent. -/
def readList {α : Type} (v : Json) (name : String) (f : Json → Portion (Option α)) :
    Portion (List α) :=
  match listOf v name with
  | .ok items => readAll f items
  | .error d => ⟨[], some d⟩

/-! ## Parts of a document -/

/-- A name that must be a text. -/
def nameOf (v : Json) : Except Defect String := do
  textOf .wrongKind (← memberOr v "name" (.str ""))

/-- A description; whatever counts as false is an empty one. -/
def descriptionOf (v : Json) : Except Defect String := do
  let d ← memberOr v "description" .null
  if d.truthy then textOf .noField d else return ""

def cellOf (v : Json) : Except Defect Cell := do
  return ⟨textOf? (← memberOf v "value")⟩

def rowOf (v : Json) : Except Defect Row := do
  (← itemsOf (← memberOf v "cells")).mapM cellOf

def tableOf (v : Json) : Except Defect (List Row) := do
  (← listOf v "rows").mapM rowOf

def keywordTypeOf (v : Json) : Except Defect KeywordType := do
  match ← memberOr v "keywordType" .null with
  | .str "Context" => return .kind .context
  | .str "Action" => return .kind .action
  | .str "Outcome" => return .kind .outcome
  | .str "Conjunction" => return .conjunction
  | .arr _ => throw .wrongKind
  | .obj _ => throw .wrongKind
  | _ => return .unknown

/-- The keyword of a step with its type. -/
def keywordOf (v : Json) : Except Defect (KeywordType × String) := do
  let type ← keywordTypeOf v
  return (type, ← textOf .noField (← memberOf v "keyword"))

/-- A step up to its text, which may be of any kind. -/
def stepHead (v : Json) : Except Defect (Step × Json) := do
  let (type, keyword) ← keywordOf v
  let text ← memberOf v "text"
  let table ←
    if ← holds v "dataTable" then some <$> tableOf (← memberOf v "dataTable") else pure none
  return ({ keyword, type, text := "", table }, text)

/-- A step.  One without a text is kept for the faults of its table. -/
def stepOf (v : Json) : Portion (Option Step) :=
  match stepHead v with
  | .error d => ⟨none, some d⟩
  | .ok (s, .str text) => ⟨some { s with text }, none⟩
  | .ok (s, _) =>
    if (s.table.getD []).all (fun row => row.length == ((s.table.getD []).headD []).length) then
      ⟨none, some .noField⟩
    else ⟨some s, some .noField⟩

/-- A header of a table of values.  The names of the first one must be texts. -/
def headerOf (isFirst : Bool) (v : Json) : Except Defect Row := do
  let row ← rowOf v
  if isFirst && row.any (·.value.isNone) then throw .wrongKind else return row

/-- A table of values; one whose rows cannot be read is kept for its header. -/
def examplesOf (isFirst : Bool) (v : Json) : Portion (Option Examples) :=
  match memberOr v "tableHeader" .null with
  | .error d => ⟨none, some d⟩
  | .ok .null => ⟨none, none⟩
  | .ok h =>
    match headerOf isFirst h with
    | .error d => ⟨none, some d⟩
    | .ok header =>
      let e (body : List Row) : Examples :=
        { tags := [], keyword := "", name := "", description := "", header := some header, body }
      match listOf v "tableBody" >>= List.mapM rowOf with
      | .ok body => ⟨some (e body), none⟩
      | .error d => ⟨some (e []), some d⟩

/-- Tables of values until the first defect. -/
def examplesFrom (isFirst : Bool) : List Json → Portion (List Examples)
  | [] => ⟨[], none⟩
  | v :: vs =>
    let r := examplesOf isFirst v
    match r.defect with
    | some d => ⟨r.value.toList, some d⟩
    | none =>
      let rest := examplesFrom (isFirst && r.value.isNone) vs
      ⟨r.value.toList ++ rest.value, rest.defect⟩

/-- The tags of a scenario up to one of a given name. -/
def tagsUntil (stop : String) : List Json → Except Defect (List String)
  | [] => .ok []
  | v :: vs => do
    let name := (textOf? (← memberOf v "name")).getD ""
    if name = stop then return [name] else return name :: (← tagsUntil stop vs)

/-- What a scenario says before its tables and steps. -/
def scenarioHead (v : Json) : Except Defect Scenario := do
  let name ← nameOf v
  let description ← descriptionOf v
  let tags ← tagsUntil explicitTag (← listOf v "tags")
  return { tags, keyword := "", name, description, steps := [], examples := [] }

def scenarioOf (v : Json) : Portion (Option Scenario) :=
  match scenarioHead v with
  | .error d => ⟨none, some d⟩
  | .ok s =>
    let examples := match listOf v "examples" with
      | .ok items => examplesFrom true items
      | .error d => ⟨[], some d⟩
    match examples.defect with
    | some d => ⟨some { s with examples := examples.value }, some d⟩
    | none =>
      let steps := readList v "steps" stepOf
      ⟨some { s with examples := examples.value, steps := steps.value }, steps.defect⟩

/-- The background of a child; none where it has no such member. -/
def backgroundOf (v : Json) : Portion (Option Background) :=
  match holds v "background" with
  | .error d => ⟨none, some d⟩
  | .ok false => ⟨none, none⟩
  | .ok true =>
    match memberOf v "background" with
    | .error d => ⟨none, some d⟩
    | .ok b =>
      (readList b "steps" stepOf).map fun steps =>
        some { keyword := "", name := "", description := "", steps }

/-- The scenario of a child; none where it has no such member. -/
def childScenarioOf (v : Json) : Portion (Option Scenario) :=
  match holds v "scenario" with
  | .error d => ⟨none, some d⟩
  | .ok false => ⟨none, none⟩
  | .ok true =>
    match memberOf v "scenario" with
    | .error d => ⟨none, some d⟩
    | .ok s => scenarioOf s

/-- A child of a rule; a background stands in front of a scenario. -/
def ruleChildOf (v : Json) : Portion (Option RuleChild) :=
  match holds v "background" with
  | .error d => ⟨none, some d⟩
  | .ok true =>
    ⟨some (.background { keyword := "", name := "", description := "", steps := [] }), none⟩
  | .ok false => (childScenarioOf v).map fun s => s.map .scenario

def ruleHead (v : Json) : Except Defect Rule := do
  let name := textOf? (← memberOr v "name" (.str ""))
  let description ← descriptionOf v
  return { tags := [], keyword := "", name, description, children := [] }

def ruleOf (v : Json) : Portion (Option Rule) :=
  match ruleHead v with
  | .error d => ⟨none, some d⟩
  | .ok r => (readList v "children" ruleChildOf).map fun children => some { r with children }

/-- The rule or the scenario of a child. -/
def childOf (v : Json) : Portion (Option Child) :=
  match holds v "rule" with
  | .error d => ⟨none, some d⟩
  | .ok true =>
    match memberOf v "rule" with
    | .error d => ⟨none, some d⟩
    | .ok r => (ruleOf r).map fun r => r.map .rule
  | .ok false => (childScenarioOf v).map fun s => s.map .scenario

/-! ## Documents -/

/-- A tag of a feature. -/
def tagOf (v : Json) : Except Defect String := do
  textOf .noField (← memberOf v "name")

/-- What a feature says before its tags. -/
def featureHead (v : Json) : Except Defect Feature := do
  let name ← nameOf v
  let description ← descriptionOf v
  return { tags := [], language := "", keyword := "", name, description, children := [] }

/-- The children of a feature, its backgrounds first. -/
def childrenOf (v : Json) : Portion (List Child) :=
  match listOf v "children" with
  | .error d => ⟨[], some d⟩
  | .ok items =>
    let backgrounds := (readAll backgroundOf items).map (List.map Child.background)
    match backgrounds.defect with
    | some d => ⟨backgrounds.value, some d⟩
    | none => (readAll childOf items).map (backgrounds.value ++ ·)

def featureOf (v : Json) : Portion (Option Feature) :=
  match featureHead v with
  | .error d => ⟨none, some d⟩
  | .ok f =>
    let tags := readList v "tags" fun t => whole (tagOf t)
    match tags.defect with
    | some d => ⟨some { f with tags := tags.value }, some d⟩
    | none => (childrenOf v).map fun children => some { f with tags := tags.value, children }

/-- The document of a tree.  A feature that counts as false is none. -/
def documentOf (v : Json) : Portion Document :=
  match memberOr v "feature" .null with
  | .error d => ⟨none, some d⟩
  | .ok f => if f.truthy then featureOf f else ⟨none, none⟩

end Acceptance.Gherkin
