import Acceptance.Command.Request
import Acceptance.Project.Run
import Acceptance.Project.Setup
import Acceptance.Reference

/-!
# What commands do

A command reads a project, may change its files, prints lines and reports on the way.  It succeeds,
fails, is misused, or crashes on an error that it does not expect.

    Command.run p words        the outcome of a command line in a project
-/

namespace Acceptance

open Acceptance.Text

inductive Ending where
  | success
  | failure
  | misuse
  | crash (e : ProjectError)
  deriving Repr, DecidableEq

def Ending.code : Ending → Nat
  | .success => 0
  | .failure => 1
  | .misuse => 2
  | .crash _ => 1

structure Outcome where
  project : Project
  output : String
  log : Log
  ending : Ending

namespace Outcome

def start (p : Project) : Outcome := ⟨p, "", [], .success⟩

/-- Prints a line. -/
def say (o : Outcome) (line : String) : Outcome := { o with output := o.output ++ line ++ "\n" }

def sayAll (o : Outcome) (lines : List String) : Outcome := lines.foldl say o

def logged (o : Outcome) (log : Log) : Outcome := { o with log := o.log ++ log }

def fail (o : Outcome) : Outcome := { o with ending := .failure }

def crash (o : Outcome) (e : ProjectError) : Outcome := { o with ending := .crash e }

/-- What is shown of the records from a level on. -/
def recordText (o : Outcome) (level : Level) : String :=
  String.join ((o.log.filter fun r => level.weight ≤ r.level.weight).map fun r =>
    r.level.name ++ ": " ++ r.message ++ "\n")

end Outcome

/-- The version of the program. -/
def programVersion : String := "0.1.0"

namespace Command

/-! ## Configurations -/

/-- Goes on with the configuration of a project. -/
def withConfig (o : Outcome) (next : Config → Outcome) : Outcome :=
  match o.project.loadConfig with
  | .ok c => next c
  | .error (.config m) => (o.say ("Error: " ++ m)).fail
  | .error e => o.crash e

/-- Goes on with the configuration of a project that must be initialized. -/
def withProject (p : Project) (next : Config → Outcome) : Outcome :=
  if p.isInitialized then withConfig (.start p) next
  else ((Outcome.start p).say "Error: Not initialized. Run `feature-gen init` first.").fail

/-- Goes on with the catalog of a project. -/
def withCatalog (o : Outcome) (c : Config) (next : Catalog → Outcome → Outcome) : Outcome :=
  let loaded := o.project.loadCatalog c
  match loaded.result with
  | .error e => (o.logged loaded.log).crash e
  | .ok catalog => next catalog (o.logged loaded.log)

/-! ## Setting up -/

/-- The lines about a template that was installed. -/
def templateLines (template : Option Path) : List String :=
  (template.map fun t => "  Template: " ++ t.text).toList

/-- Sets up a project with a configuration, and prints the lines that `made` gives of it. -/
def setUpWith (o : Outcome) (c : Config) (made : SetUp → List String) : Outcome :=
  match o.project.setUp c with
  | ⟨p, .error e⟩ => { o with project := p }.crash e
  | ⟨p, .ok s⟩ => { o with project := p }.sayAll (made s ++ templateLines s.template)

def setUp (p : Project) : Outcome :=
  if p.isInitialized then
    let o := (Outcome.start p).say "Warning: Project is already initialized. Keeping configuration."
    withConfig o fun c => setUpWith o c fun _ => ["Existing templates and feature files preserved."]
  else
    setUpWith (.start p) .standard fun s =>
      ["Initialized feature-gen project.", "  Created: " ++ s.features.text ++ "/",
        "  Config:  " ++ s.config.text]

/-! ## Generating -/

/-- The line about a test module. -/
def fileLine (write : Bool) (outputDir : Path) (f : GeneratedFile) : String :=
  (if write then "Generated: " else "Would generate: ") ++
    (outputDir.«to» (.ofText f.outputPath)).text

/-- The line that sums up a report, behind an empty one. -/
def summary (r : Report) : String :=
  "\n" ++ Decimal.text r.files.length ++ " file(s), " ++ Decimal.text r.errors.length ++
    " error(s), " ++ Decimal.text r.warnings.length ++ " warning(s)"

def generate (p : Project) (write : Bool) : Outcome :=
  withProject p fun c =>
    let result := p.run c write
    let o := (Outcome.start { p with tree := result.tree }).logged result.log
    match result.result, p.pathOf c.outputDir with
    | .error e, _ => o.crash e
    | .ok _, .error e => o.crash e
    | .ok r, .ok outputDir =>
      let o := (o.sayAll (r.files.map (fileLine write outputDir))).say (summary r)
      if r.isSuccess then o else o.fail

/-! ## Looking at steps -/

/-- A definition as data. -/
def definitionTree (d : StepDefinition) : Json :=
  .obj [("keyword", .str d.kind.word), ("pattern", .str d.pattern), ("owner", .str d.owner),
    ("namespace", .str d.module), ("method", .str d.method),
    ("parameters", .arr (d.parameters.map fun p =>
      .obj [("type", .str p.typeName), ("name", .str p.name)]))]

/-- The method of a definition with its module and class. -/
def methodPlace (d : StepDefinition) : String := d.module ++ "." ++ d.owner ++ "." ++ d.method

/-- A keyword with blanks behind it up to a width. -/
def padded (width : Nat) (s : String) : String :=
  .ofList (s.toList ++ List.replicate (width - s.toList.length) ' ')

/-- The lines about a definition. -/
def definitionLines (d : StepDefinition) : List String :=
  ["  " ++ padded 5 d.kind.word ++ " " ++ d.pattern, "        -> " ++ methodPlace d]

def steps (p : Project) (asJson : Bool) : Outcome :=
  withProject p fun c =>
    withCatalog (.start p) c fun catalog o =>
      if asJson then o.say (Json.prettyAscii 2 (.arr (catalog.map definitionTree)))
      else if catalog.isEmpty then o.say "No step definitions found."
      else
        o.sayAll (("Found " ++ Decimal.text catalog.length ++ " step definition(s):") ::
          catalog.flatMap definitionLines)

def lookUp (p : Project) (kind : StepKind) (text : String) : Outcome :=
  withProject p fun c =>
    withCatalog (.start p) c fun catalog o =>
      let o := o.logged (catalog.ambiguity kind.word text)
      match catalog.resolve? kind.word text with
      | none => (o.say ("No step definition matches: " ++ kind.word ++ " " ++ text)).fail
      | some r =>
        o.sayAll (["Pattern: " ++ r.definition.pattern, "Method:  " ++ methodPlace r.definition] ++
          (r.definition.parameters.zip r.arguments).map fun (p, v) => "  " ++ p.name ++ " = " ++ v)

/-! ## Looking at plans and templates -/

/-- Whether a written path leads to a file. -/
def isFileText (t : FileTree) (s : String) : Bool :=
  let start := if s.toList.head? = some '/' then [] else t.here
  match t.walk start ((splitAt '/' s.toList).map .ofList) with
  | .ok l =>
    match t.node? l with
    | some (.file _) => s != ""
    | _ => false
  | .error _ => false

/-- An outcome of misuse. -/
def misuse (p : Project) : Outcome := { Outcome.start p with ending := .misuse }

def plan (p : Project) (feature : String) : Outcome :=
  if isFileText p.tree feature then
    withProject p fun c =>
      let path := Path.ofText feature
      match p.readText path with
      | .error e => (Outcome.start p).crash e
      | .ok content =>
        match Gherkin.Document.read content with
        | .error faults => ((Outcome.start p).say ("Error: " ++ Gherkin.faultsMessage faults)).fail
        | .ok d =>
          withCatalog (.start p) c fun catalog o =>
            let o := o.logged (Plan.conversionLog catalog d)
            match Plan.convert catalog path.stem d with
            | .error f => (o.say ("Error: " ++ f.message)).fail
            | .ok plan => { o with output := o.output ++ plan.exportText 2 }
  else misuse p

/-- Checks the template at a path. -/
def validateAt (p : Project) (path : Path) : Outcome :=
  match p.readText path with
  | .error e => (Outcome.start p).crash e
  | .ok template =>
    let o := (Outcome.start p).logged (Reference.log template)
    if Reference.accepts template then o.say ("Template OK: " ++ path.text)
    else (o.say ("Template invalid: " ++ path.text)).fail

def validate (p : Project) (template : Option String) : Outcome :=
  match template with
  | some s => if isFileText p.tree s then validateAt p (.ofText s) else misuse p
  | none =>
    withProject p fun c =>
      match p.findTemplate c with
      | .ok path => validateAt p path
      | .error (.noTemplate place) =>
        ((Outcome.start p).say ("Error: " ++ (ProjectError.noTemplate place).message)).fail
      | .error e => (Outcome.start p).crash e

/-! ## The state of a project -/

/-- Whether a name is that of a test module. -/
def isTestName (name : String) : Bool :=
  "test_".toList.isPrefixOf name.toList && hasEnding ".py" name && 8 ≤ name.toList.length

def countLine (what : String) (n : Nat) : String := what ++ ": " ++ Decimal.text n

/-- The line about the test modules in a directory. -/
def generatedLine (t : FileTree) (outputDir : Path) : String :=
  match (t.find outputDir isTestName).length with
  | 0 => "Generated tests: none"
  | n => countLine "Generated tests" n

/-- The line about the template in use. -/
def templateLine (root : Path) : List Path → String
  | [] => "Template: missing"
  | path :: _ => "Template: " ++ path.shown root

/-- Prints what is known of an initialized project. -/
def statusLines (o : Outcome) (c : Config) : Outcome :=
  match o.project.features c with
  | .error e => o.crash e
  | .ok features =>
    withCatalog (o.say (countLine "Feature files" features.length)) c fun catalog o =>
      let o := o.say (countLine "Step definitions" catalog.length)
      match o.project.templates c with
      | .error e => o.crash e
      | .ok templates =>
        let o := o.say (templateLine o.project.root templates)
        match o.project.pathOf c.outputDir with
        | .error e => o.crash e
        | .ok outputDir =>
          match o.project.probe outputDir with
          | .error e => o.crash e
          | .ok _ => o.say (generatedLine o.project.tree outputDir)

def status (p : Project) : Outcome :=
  if p.isInitialized then withConfig (.start p) fun c => statusLines (.start p) c
  else (Outcome.start p).say "Project is not initialized. Run `feature-gen init`."

/-! ## Command lines -/

def versionLine : String := "feature-gen, version " ++ programVersion

/-- The outcome of a request. -/
def perform (p : Project) : Request → Outcome
  | .version => (Outcome.start p).say versionLine
  | .setUp => setUp p
  | .generate write => generate p write
  | .steps asJson => steps p asJson
  | .lookUp kind text => lookUp p kind text
  | .plan feature => plan p feature
  | .validate template => validate p template
  | .status => status p

/-- The outcome of a command line, and the lightest level of records to show of it. -/
def run (p : Project) (words : List String) : Outcome × Level :=
  match CommandLine.ofWords? words with
  | none => (misuse p, .warning)
  | some c => (perform p c.request, c.level)

end Command

end Acceptance
