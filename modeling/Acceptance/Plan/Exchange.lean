import Acceptance.Gherkin.TreeReader
import Acceptance.Plan.Conversion

/-!
# Plans of trees

A tree is converted as far as it can be read.  A fault in what was read comes before the defect
that stopped the reading.
-/

namespace Acceptance.Plan

/-- Why no plan can be made for a tree. -/
inductive Failure where
  | fault (f : Fault)
  | defect (d : Gherkin.Defect)
  deriving Repr, DecidableEq

/-- The plan of a document that was read. -/
def convertPortion (c : Catalog) (fileName : String) (r : Gherkin.Portion Gherkin.Document) :
    Except Failure Plan :=
  match convert c fileName r.value, r.defect with
  | .error f, _ => .error (.fault f)
  | .ok _, some d => .error (.defect d)
  | .ok p, none => .ok p

/-- The kind that a step of a tree sets.  A step whose type says so is not asked for its keyword. -/
def kindOfTree? (v : Json) : Except Gherkin.Defect (Option StepKind) := do
  match ← Gherkin.keywordTypeOf v with
  | .kind k => return some k
  | _ =>
    let (type, keyword) ← Gherkin.keywordOf v
    return kindOf? type keyword

end Acceptance.Plan
