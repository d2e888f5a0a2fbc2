import Acceptance.Log
import Acceptance.Step.Definition
import Acceptance.Step.Pattern

/-!
# The step catalog

A catalog lists step definitions in the order of their registration.  A step line is looked up by
its keyword and text: definitions without parameters come first and need the same text without
regard to case, those with parameters follow and need their pattern to match.

    resolve? c keyword text = (matches c keyword text).head?, with the values of the placeholders
-/

namespace Acceptance

open Acceptance.Text

abbrev Catalog := List StepDefinition

/-- A definition found for a step, with the values of its placeholders. -/
structure Resolution where
  definition : StepDefinition
  arguments : List String
  deriving Repr, DecidableEq

namespace StepDefinition

/-! ## Algorithm -/

/-- Whether a definition is registered under a keyword, capitals aside. -/
def answersTo (d : StepDefinition) (keyword : String) : Bool := fold d.kind.word == fold keyword

/-- Whether a definition without parameters has just this text. -/
def isExact (d : StepDefinition) (text : String) : Bool :=
  d.parameters.isEmpty && fold d.pattern == fold text

/-- Whether a definition with parameters has a pattern that matches the text. -/
def isTemplated (d : StepDefinition) (text : String) : Bool :=
  !d.parameters.isEmpty && Pattern.accepts d.pattern text

end StepDefinition

namespace Catalog

/-- The definitions registered under a keyword. -/
def candidates (c : Catalog) (keyword : String) : List StepDefinition :=
  c.filter (·.answersTo keyword)

/-- The definition that a step resolves to. -/
def find? (c : Catalog) (keyword text : String) : Option StepDefinition :=
  match (c.candidates keyword).find? (·.isExact text) with
  | some d => some d
  | none => (c.candidates keyword).find? (·.isTemplated text)

/-- Every definition that accepts a step, in the order of look-up. -/
def findAll (c : Catalog) (keyword text : String) : List StepDefinition :=
  (c.candidates keyword).filter (·.isExact text) ++
    (c.candidates keyword).filter (·.isTemplated text)

/-- The places of these definitions in the catalog. -/
def positions (c : Catalog) (keyword text : String) : List Nat :=
  let placed := c.zipIdx.filter fun p => p.1.answersTo keyword
  (placed.filter (fun p => p.1.isExact text) ++
    placed.filter fun p => p.1.isTemplated text).map (·.2)

/-- The resolution of a step. -/
def resolve? (c : Catalog) (keyword text : String) : Option Resolution :=
  (c.find? keyword text).map fun d => ⟨d, Pattern.arguments d.pattern text⟩

/-- What a look-up reports: the definitions passed over where several accept the step. -/
def ambiguity (c : Catalog) (keyword text : String) : Log :=
  match c.findAll keyword text with
  | d :: e :: rest =>
    [⟨.debug, .matcher, "Ambiguous step '" ++ keyword ++ " " ++ text ++ "': using " ++
      d.qualifiedMethod ++ ", also matches " ++
      ", ".intercalate ((e :: rest).map StepDefinition.qualifiedMethod)⟩]
  | _ => []

/-! ## Lemmas -/

theorem find?_eq_head? (c : Catalog) (keyword text : String) :
    c.find? keyword text = (c.findAll keyword text).head? := by
  simp only [find?, findAll, List.head?_append, List.head?_filter]
  split
  · rename_i h
    rw [h, Option.some_or]
  · rename_i h
    rw [h, Option.none_or]

end Catalog

end Acceptance
