import Acceptance.Generation
import Acceptance.Source.Statement

/-!
# Checking a template

A template is checked on a reference feature that has everything a feature may have: it must
render, and what it renders must be a source text.
-/

namespace Acceptance.Reference

def featureLines : List String := [
  "@namespace:reference.features",
  "@baseclass:reference.support.ReferenceTestBase",
  "Feature: Reference feature",
  "  Validates that a template renders compilable tests.",
  "",
  "  Background:",
  "    Given a valid precondition",
  "",
  "  Scenario Outline: Outline scenario",
  "    Plain remarks.",
  "    When the value is <input>",
  "    Then the result is <output>",
  "",
  "    Examples:",
  "      | input | output |",
  "      | one   | 1      |",
  "      | two   | 2      |",
  "",
  "  Rule: Reference rule",
  "    A rule description.",
  "",
  "    @explicit",
  "    Scenario: Explicit scenario",
  "      When an action occurs with \"quoted text\"",
  "        | Field | Value |",
  "        | Name  | Alpha |",
  "      Then the expected result happens"]

def feature : String := String.join (featureLines.map fun line => line ++ "\n")

def fileName : String := "reference"

def source : String := "reference.feature"

def catalog : Catalog := [
  { kind := .context, pattern := "a valid precondition", owner := "ReferenceSteps",
    module := "reference.steps", method := "a_valid_precondition", parameters := [] },
  { kind := .action, pattern := "an action occurs with \x7bvalue\x7d", owner := "ReferenceSteps",
    module := "reference.steps", method := "an_action_occurs_with",
    parameters := [⟨"str", "value"⟩, ⟨"DataTable", "table"⟩] },
  { kind := .action, pattern := "the value is \x7bvalue\x7d", owner := "ReferenceSteps",
    module := "reference.steps", method := "the_value_is", parameters := [⟨"str", "value"⟩] }]

/-- What is reported of a template. -/
def warning (message : String) : Record := ⟨.warning, .pipeline, "Template validation: " ++ message⟩

/-- What is reported where a template fails. -/
def failures (template : String) : Log :=
  let generated := generateFeature catalog template feature fileName source
  match generated.file with
  | none => generated.diagnostics.map fun d => warning d.message
  | some file =>
    match Source.readSource file.code with
    | some _ => []
    | none => [warning "rendered code does not compile"]

/-- Whether a template passes. -/
def accepts (template : String) : Bool := (failures template).isEmpty

/-- What checking a template reports. -/
def log (template : String) : Log := generationLog catalog feature ++ failures template

end Acceptance.Reference
