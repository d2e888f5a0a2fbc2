import Acceptance.Gherkin.Reader
import Acceptance.Plan.Conversion
import Acceptance.Plan.FileName
import Acceptance.Plan.Tree
import Acceptance.Report
import Acceptance.Template.Render

/-!
# Generating test modules

One feature text gives one test module: the text is read, planned and rendered.  What goes wrong
on the way becomes a diagnostic and leaves no module; steps without a definition are a warning.

    generateFeature c template content fileName source        the module or the diagnostics
    unusable c template content fileName = none               there is a module
-/

namespace Acceptance

open Acceptance.Text

/-! ## Diagnostics -/

/-- The codes of diagnostics. -/
def missingTemplateCode : String := "FG001"

def generationErrorCode : String := "FG002"

def parseErrorCode : String := "FG003"

def unimplementedCode : String := "FG004"

def extraTemplatesCode : String := "FG005"

/-- Why a feature gives no test module. -/
inductive GenerationError where
  | unreadable (message : String)
  | fault (f : Plan.Fault)
  | render (e : Template.RenderError)
  deriving Repr, DecidableEq

namespace GenerationError

def code : GenerationError → String
  | unreadable _ => parseErrorCode
  | fault _ => generationErrorCode
  | render _ => generationErrorCode

/-- A template error with its kind in front; one that stops the reading has no text of its own. -/
def renderText (e : Template.RenderError) : String :=
  match e with
  | .unreadable => e.kind
  | e => e.kind ++ ": " ++ e.message

def message (fileName : String) : GenerationError → String
  | unreadable m => "Error parsing " ++ fileName ++ ".feature: " ++ m
  | fault f => "Error generating test for " ++ fileName ++ ": ConversionError: " ++ f.message
  | render e => "Error generating test for " ++ fileName ++ ": " ++ renderText e

end GenerationError

/-- The warning about steps without a definition. -/
def stubWarning (fileName source : String) (count : Nat) : List Diagnostic :=
  if count = 0 then []
  else [⟨unimplementedCode, .warning, "Feature '" ++ fileName ++ "' has " ++ Decimal.text count ++
    " unimplemented step(s). Stub implementations generated in output file.", some source⟩]

/-! ## Plans and code -/

/-- The members of a plan that a template sees. -/
def Plan.members (p : Plan) : List (String × Json) :=
  match p.tree with
  | .obj members => members
  | _ => []

/-- The code of a plan. -/
def Plan.render (template : String) (p : Plan) : Except Template.RenderError String :=
  Template.render template p.members

/-- The plan of a feature text with its code. -/
def generate (c : Catalog) (template content fileName : String) :
    Except GenerationError (Plan × String) :=
  match Gherkin.Document.read content with
  | .error faults => .error (.unreadable (Gherkin.faultsMessage faults))
  | .ok d =>
    match Plan.convert c fileName d with
    | .error f => .error (.fault f)
    | .ok p =>
      match p.render template with
      | .error e => .error (.render e)
      | .ok code => .ok (p, code)

/-- What generating from a feature text reports. -/
def generationLog (c : Catalog) (content : String) : Log :=
  match Gherkin.Document.read content with
  | .error _ => []
  | .ok d => Plan.conversionLog c d

/-! ## Features -/

/-- The test module of a feature, if there is one, and the diagnostics. -/
structure Generated where
  file : Option GeneratedFile
  diagnostics : List Diagnostic
  deriving Repr, DecidableEq

/-- Generates from a feature text; `source` names the file in the diagnostics. -/
def generateFeature (c : Catalog) (template content fileName source : String) : Generated :=
  match generate c template content fileName with
  | .error e => ⟨none, [⟨e.code, .error, e.message fileName, some source⟩]⟩
  | .ok (p, code) =>
    ⟨some ⟨source, Plan.outputPath p, code, p⟩, stubWarning fileName source p.stubs.length⟩

end Acceptance
