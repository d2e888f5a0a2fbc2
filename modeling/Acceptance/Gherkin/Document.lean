import Acceptance.Step.Definition

/-!
# Feature documents

What a feature file says: a feature with its tags, its background, its scenarios and its rules.
An empty file has no feature.  Names and cells of documents from elsewhere may be without a value.
-/

namespace Acceptance.Gherkin

/-- How the keyword of a step line bears on its kind. -/
inductive KeywordType where
  | kind (k : StepKind)
  | conjunction
  | unknown
  deriving Repr, DecidableEq

structure Cell where
  value : Option String
  deriving Repr, DecidableEq

abbrev Row := List Cell

structure Step where
  /-- The keyword as written, its trailing blank included. -/
  keyword : String
  type : KeywordType
  text : String
  table : Option (List Row)
  deriving Repr, DecidableEq

structure Background where
  keyword : String
  name : String
  description : String
  steps : List Step
  deriving Repr, DecidableEq

/-- A table of values for the placeholders of an outline. -/
structure Examples where
  tags : List String
  keyword : String
  name : String
  description : String
  header : Option Row
  body : List Row
  deriving Repr, DecidableEq

/-- The tag that keeps a scenario out of ordinary runs. -/
def explicitTag : String := "@explicit"

structure Scenario where
  tags : List String
  keyword : String
  name : String
  description : String
  steps : List Step
  examples : List Examples
  deriving Repr, DecidableEq

inductive RuleChild where
  | background (b : Background)
  | scenario (s : Scenario)
  deriving Repr, DecidableEq

structure Rule where
  tags : List String
  keyword : String
  name : Option String
  description : String
  children : List RuleChild
  deriving Repr, DecidableEq

inductive Child where
  | background (b : Background)
  | scenario (s : Scenario)
  | rule (r : Rule)
  deriving Repr, DecidableEq

structure Feature where
  tags : List String
  language : String
  keyword : String
  name : String
  description : String
  children : List Child
  deriving Repr, DecidableEq

/-- The content of a feature file. -/
abbrev Document := Option Feature

end Acceptance.Gherkin
