import Acceptance.Generation
import Acceptance.Project.StepSource
import Acceptance.Project.TestTemplate
import Acceptance.Text.Case

/-!
# Generation runs

A run makes a test module of every feature file of a project.  The features are taken one after
the other in the order of their paths.  One that fails is reported and leaves the others as they
are; a missing template ends the run before it begins, and an output directory whose path has a
null character ends it at the first test module to be written.

    p.run c write        the report of a run, the tree behind it and what it reports on the way
    p.prepare c write    the run before its first feature
    Run.feature job r f  a run behind one more feature
-/

namespace Acceptance

open Acceptance.Text

def featureEnding : String := ".feature"

/-- What a run does with every feature. -/
structure Job where
  root : Path
  catalog : Catalog
  template : String
  outputDir : Path
  snapshots : Bool
  write : Bool

/-- A run so far; an output path belongs to the feature that claimed it first. -/
structure Run where
  tree : FileTree
  claims : List (String × String)
  report : Report
  log : Log

/-- What a run comes to. -/
structure RunResult where
  tree : FileTree
  log : Log
  result : Except ProjectError Report

namespace Run

/-- What a run with a report comes to. -/
def ended (r : Run) : RunResult := ⟨r.tree, r.log, .ok r.report⟩

/-- What a run that an error stops comes to. -/
def stopped (r : Run) (e : ProjectError) : RunResult := ⟨r.tree, r.log, .error e⟩

/-! ## Reporting -/

/-- What is reported of a diagnostic. -/
def recordOf (d : Diagnostic) : Record :=
  ⟨match d.severity with
    | .error => .error
    | .warning => .warning, .pipeline, d.text⟩

/-- A run with records. -/
def logged (r : Run) (log : Log) : Run := { r with log := r.log ++ log }

/-- A run with diagnostics. -/
def diagnosed (r : Run) (ds : List Diagnostic) : Run :=
  { r with
    report := { r.report with diagnostics := r.report.diagnostics ++ ds }
    log := r.log ++ ds.map recordOf }

/-- A run with a test module. -/
def filed (r : Run) (f : GeneratedFile) : Run :=
  { r with
    report := { r.report with files := r.report.files ++ [f] }
    log := r.log ++
      [⟨.info, .pipeline, "Generated " ++ f.outputPath ++ " from " ++ f.featureFile⟩] }

/-! ## Diagnostics of a run -/

def readError (name source : String) (e : TextError) : Diagnostic :=
  ⟨generationErrorCode, .error, "Error reading " ++ name ++ ": " ++ e.message, some source⟩

def claimError (f : GeneratedFile) (owner : String) : Diagnostic :=
  ⟨generationErrorCode, .error, "Output " ++ f.outputPath ++ " for " ++ f.featureFile ++
    " is already generated from " ++ owner ++ "; give one of them a different @namespace tag",
    some f.featureFile⟩

def writeError (f : GeneratedFile) (e : FileError) : Diagnostic :=
  ⟨generationErrorCode, .error, "Error writing " ++ f.outputPath ++ ": " ++ e.message,
    some f.featureFile⟩

/-- A run behind a fault of a request.  The fault is reported; that of a path with a null character
is no fault of the tree and stops the run. -/
def faulted (r : Run) (e : FileError) (d : Diagnostic) : Except RunResult Run :=
  if e.fault = .nullByte then .error (r.stopped (.file e)) else .ok (r.diagnosed [d])

/-! ## Outputs -/

/-- The feature that an output path belongs to, a new one to `source`. -/
def owner (r : Run) (f : GeneratedFile) : String :=
  (r.claims.lookup (fold f.outputPath)).getD f.featureFile

/-- A run in which an output path belongs to someone. -/
def claimed (r : Run) (f : GeneratedFile) : Run :=
  { r with
    claims := match r.claims.lookup (fold f.outputPath) with
      | some _ => r.claims
      | none => (fold f.outputPath, f.featureFile) :: r.claims }

/-- The file of a test module. -/
def target (job : Job) (f : GeneratedFile) : Path := job.outputDir.«to» (.ofText f.outputPath)

/-- The file beside it that holds the plan. -/
def snapshot (job : Job) (f : GeneratedFile) : Path :=
  (target job f).parent.child (f.plan.fileName ++ ".crif.json")

/-- The text of the plan's file. -/
def snapshotText (f : GeneratedFile) : String := f.plan.exportText 2

/-- Writes a test module and, where asked to, its plan. -/
def writeOutputs (job : Job) (t : FileTree) (f : GeneratedFile) : FileTree × Option FileError :=
  match t.ensureAll (target job f).parent with
  | (t, some e) => (t, some e)
  | (t, none) =>
    match t.writeText (target job f) f.code with
    | .error e => (t, some e)
    | .ok t =>
      if job.snapshots then
        match t.writeText (snapshot job f) (snapshotText f) with
        | .error e => (t, some e)
        | .ok t => (t, none)
      else (t, none)

/-- A run behind a test module that may be written. -/
def output (job : Job) (r : Run) (f : GeneratedFile) : Except RunResult Run :=
  if job.write then
    match writeOutputs job r.tree f with
    | (t, some e) => { r with tree := t }.faulted e (writeError f e)
    | (t, none) => .ok ({ r with tree := t }.filed f)
  else .ok (r.filed f)

/-! ## Features -/

/-- A run behind one more feature file. -/
def feature (job : Job) (r : Run) (path : Path) : Except RunResult Run :=
  let source := path.shown job.root
  match r.tree.readText path with
  | .error (.file e) => r.faulted e (readError path.name source (.file e))
  | .error (.bytes f) => .ok (r.diagnosed [readError path.name source (.bytes f)])
  | .ok content =>
    let g := generateFeature job.catalog job.template content path.stem source
    let r := (r.logged (generationLog job.catalog content)).diagnosed g.diagnostics
    match g.file with
    | none => .ok r
    | some f =>
      let owner := r.owner f
      let r := r.claimed f
      if owner = source then output job r f else .ok (r.diagnosed [claimError f owner])

/-- A run behind feature files in order. -/
def features (job : Job) (r : Run) (paths : List Path) : Except RunResult Run :=
  paths.foldlM (feature job) r

end Run

/-- A run before its first feature, with the features to take. -/
structure Prepared where
  job : Job
  start : Run
  paths : List Path

/-- A prepared run behind some features. -/
def Prepared.after (q : Prepared) (paths : List Path) : Except RunResult Run :=
  Run.features q.job q.start paths

namespace Project

/-- The feature files of a project in order. -/
def features (p : Project) (c : Config) : Except ProjectError (List Path) :=
  match p.pathOf c.featuresDir with
  | .error e => .error e
  | .ok directory =>
    match p.probe directory with
    | .error e => .error e
    | .ok _ => .ok (p.tree.find directory (hasEnding featureEnding))

/-- The warning about templates that are not used. -/
def extraTemplates : List Path → List Diagnostic
  | used :: other :: others =>
    [⟨extraTemplatesCode, .warning, Decimal.text (others.length + 2) ++
      " templates found; using " ++ used.name ++ ", ignoring " ++
      ", ".intercalate ((other :: others).map Path.name), none⟩]
  | _ => []

/-- The error of a run without a template. -/
def missingTemplate (e : ProjectError) : Diagnostic :=
  ⟨missingTemplateCode, .error, e.message, none⟩

/-- Reads what the features of a project have in common.  Where that fails the run has ended. -/
def prepare (p : Project) (c : Config) (write : Bool) : Except RunResult Prepared :=
  let start : Run := ⟨p.tree, [], .empty, []⟩
  match p.templates c with
  | .error e => .error (start.stopped e)
  | .ok [] =>
    .error (start.diagnosed [missingTemplate (.noTemplate (templatePlace c))]).ended
  | .ok (used :: others) =>
    let r := start.diagnosed (extraTemplates (used :: others))
    match p.readText used with
    | .error e => .error (r.stopped e)
    | .ok template =>
      let loaded := p.loadCatalog c
      let r := r.logged loaded.log
      match loaded.result, p.pathOf c.outputDir, p.features c with
      | .error e, _, _ => .error (r.stopped e)
      | .ok _, .error e, _ => .error (r.stopped e)
      | .ok _, .ok _, .error e => .error (r.stopped e)
      | .ok catalog, .ok outputDir, .ok paths =>
        let job : Job :=
          { root := p.root, catalog, template, outputDir, snapshots := c.snapshots.truthy, write }
        .ok ⟨job, r, paths⟩

/-- Makes the test modules of a project; without `write` nothing is written. -/
def run (p : Project) (c : Config) (write : Bool) : RunResult :=
  match p.prepare c write with
  | .error ended => ended
  | .ok q =>
    match q.after q.paths with
    | .error ended => ended
    | .ok r => r.ended

end Project

end Acceptance
