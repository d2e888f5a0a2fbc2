import Acceptance.Json.Reader
import Acceptance.Project.Basic

/-!
# Configurations

A project is initialized when it has a configuration file.  A configuration keeps the values of
the file whatever their kind; a value of the wrong kind fails where it is used.

    c.text                       the configuration file of `c`
    Config.ofJson (.obj c.members) = .ok c    where the step directories are a list and
                                              the switch is true or false
-/

namespace Acceptance

open Acceptance.Text

structure Config where
  version : Json
  featuresDir : Json
  stepsDirs : Json
  sourceRoot : Json
  templatesDir : Json
  template : Json
  outputDir : Json
  /-- Whether the plan of a feature is written beside its test module. -/
  snapshots : Json

namespace Config

/-- The configuration of a new project. -/
def standard : Config :=
  { version := .str "0.1.0", featuresDir := .str "features", stepsDirs := .arr [.str "tests/steps"],
    sourceRoot := .str ".", templatesDir := .str ".feature-gen/templates", template := .null,
    outputDir := .str "tests/generated", snapshots := .bool false }

/-! ## Reading and writing -/

def members (c : Config) : List (String × Json) :=
  [("version", c.version), ("features_dir", c.featuresDir), ("steps_dirs", c.stepsDirs),
    ("source_root", c.sourceRoot), ("templates_dir", c.templatesDir), ("template", c.template),
    ("output_dir", c.outputDir), ("emit_crif", c.snapshots)]

/-- The text of the configuration file. -/
def text (c : Config) : String := Json.prettyAscii 2 (.obj c.members) ++ "\n"

/-- The items of a value; an object has its names for items. -/
def items? : Json → Option (List Json)
  | .arr items => some items
  | .obj members => some (members.map fun m => .str m.1)
  | .str s => some (s.toList.map fun c => .str (.singleton c))
  | _ => none

/-- The step directories of a file; a single text is one directory. -/
def stepsDirsOf (v : Json) : Except ProjectError Json :=
  match v with
  | .str s => .ok (.arr [.str s])
  | v =>
    match items? v with
    | some items => .ok (.arr items)
    | none => .error .wrongKind

/-- The configuration that an object holds; members that are absent are as in a new project. -/
def ofJson (v : Json) : Except ProjectError Config :=
  let setting (name : String) (default : Json) := (v.member? name).getD default
  match stepsDirsOf (setting "steps_dirs" standard.stepsDirs) with
  | .error e => .error e
  | .ok dirs => .ok
    { version := setting "version" standard.version,
      featuresDir := setting "features_dir" standard.featuresDir, stepsDirs := dirs,
      sourceRoot := setting "source_root" standard.sourceRoot,
      templatesDir := setting "templates_dir" standard.templatesDir,
      template := setting "template" .null, outputDir := setting "output_dir" standard.outputDir,
      snapshots := .bool (setting "emit_crif" standard.snapshots).truthy }

/-- The configuration of a configuration file. -/
def read (path text : String) : Except ProjectError Config :=
  match Json.read text with
  | .error e => .error (.config ("Invalid JSON in " ++ path ++ ": " ++ e.message))
  | .ok (.obj members) => ofJson (.obj members)
  | .ok _ => .error (.config ("Invalid config format in " ++ path ++ ": expected an object"))

/-! ## Settings that are paths -/

/-- The path of a setting. -/
def path (v : Json) : Except ProjectError Path :=
  match v with
  | .str s => .ok (.ofText s)
  | _ => .error .wrongKind

/-- The paths of a setting that lists them. -/
def paths (v : Json) : Except ProjectError (List Path) :=
  match items? v with
  | some items => items.mapM path
  | none => .error .wrongKind

end Config

namespace Project

def configDirectory (p : Project) : Path := p.root.child ".feature-gen"

def configPath (p : Project) : Path := p.configDirectory.child "config.json"

def isInitialized (p : Project) : Bool := p.tree.holds p.configPath

def loadConfig (p : Project) : Except ProjectError Config :=
  if p.isInitialized then
    match p.readText p.configPath with
    | .error e => .error e
    | .ok s => Config.read p.configPath.text s
  else .error (.noConfig p.configPath.text)

/-- The configuration of a project that must have one. -/
def ensureInitialized (p : Project) : Except ProjectError Config :=
  if p.isInitialized then p.loadConfig else .error .uninitialized

/-- Writes the configuration file. -/
def saveConfig (p : Project) (c : Config) : Changed Path :=
  match p.tree.ensureAll p.configDirectory with
  | (t, some e) => ⟨p.withTree t, .error (.file e)⟩
  | (t, none) =>
    match t.writeText p.configPath c.text with
    | .error e => ⟨p.withTree t, .error (.file e)⟩
    | .ok t => ⟨p.withTree t, .ok p.configPath⟩

/-- A path that a setting names, taken from the root. -/
def pathOf (p : Project) (v : Json) : Except ProjectError Path := (Config.path v).map p.root.«to»

end Project

end Acceptance
