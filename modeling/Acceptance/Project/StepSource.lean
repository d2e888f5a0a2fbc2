import Acceptance.Project.Config
import Acceptance.Source.StepMethods
import Acceptance.Step.Catalog

/-!
# Step sources

The step catalog of a project comes from source files, given one by one or by the directories
that hold them.  A source that cannot be opened or is no source text is passed over; one that is
no text at all stops the search, as does a path with a name that is too long.

    moduleName here p root        the dotted name of a source, from the source root
    findSources t ps              the sources that paths stand for
    readSources t root ps         the definitions of sources one after the other
-/

namespace Acceptance

open Acceptance.Text

/-! ## Names of modules -/

/-- The parts of a source's path from the source root; of one outside of it, or where either has a
null character, the name alone. -/
def sourceParts (here : Location) (source root : Path) : List String :=
  let parts := source.normal here
  let above := root.normal here
  if !source.hasNull && !root.hasNull && above.isPrefixOf parts then parts.drop above.length
  else (Path.ofText source.name).parts

/-- The name of a package's own source. -/
def packageSource : String := "__init__"

/-- The dotted name of the module that a source holds. -/
def moduleName (here : Location) (source root : Path) : Except ProjectError String :=
  match (sourceParts here source root).reverse with
  | [] => .error .unnamed
  | name :: above =>
    let stem : String := .ofList (Path.splitName name.toList).1
    .ok (join "." (if stem = packageSource then above.reverse else (stem :: above).reverse))

/-! ## Finding sources -/

def sourceEnding : String := ".py"

/-- The sources that a path stands for: those in a directory, or the source itself. -/
def sourcesAt (t : FileTree) (p : Path) : Except FileError (Option (List Path)) :=
  match t.probe p with
  | .error e => .error e
  | .ok (some .directory) => .ok (some (t.find p (hasEnding sourceEnding)))
  | .ok (some (.file _)) => .ok (if p.suffix = sourceEnding then some [p] else none)
  | .ok none => .ok none

/-- What is reported of a path that stands for no source. -/
def noSources (p : Path) : Record := ⟨.debug, .catalog, "No step sources at " ++ p.text⟩

/-- What a search or reading comes to, with what it reports. -/
structure Reported (α : Type) where
  log : Log
  result : Except ProjectError α

/-- The sources that paths stand for, in order. -/
def findSources (t : FileTree) : List Path → Reported (List Path)
  | [] => ⟨[], .ok []⟩
  | p :: ps =>
    match sourcesAt t p with
    | .error e => ⟨[], .error (.file e)⟩
    | .ok found =>
      let rest := findSources t ps
      ⟨(if found.isNone then [noSources p] else []) ++ rest.log,
        rest.result.map fun others => found.getD [] ++ others⟩

/-! ## Reading sources -/

/-- The definitions of a source. -/
def readSource (t : FileTree) (root p : Path) : Reported (List StepDefinition) :=
  match t.readText p with
  | .error (.bytes f) => ⟨[], .error (.bytes f)⟩
  | .error (.file e) =>
    ⟨[⟨.warning, .catalog,
      "Skipping unreadable step file " ++ p.text ++ ": " ++ e.message⟩], .ok []⟩
  | .ok text =>
    match moduleName t.here p root with
    | .error e => ⟨[], .error e⟩
    | .ok module =>
      match Source.analyze text module with
      | none => ⟨[⟨.warning, .catalog, "Skipping step file " ++ p.text⟩], .ok []⟩
      | some ds =>
        ⟨[⟨.debug, .catalog,
          "Found " ++ Decimal.text ds.length ++ " step(s) in " ++ p.text⟩], .ok ds⟩

/-- The definitions of sources in order. -/
def readSources (t : FileTree) (root : Path) : List Path → Reported Catalog
  | [] => ⟨[], .ok []⟩
  | p :: ps =>
    match readSource t root p with
    | ⟨log, .error e⟩ => ⟨log, .error e⟩
    | ⟨log, .ok ds⟩ =>
      let rest := readSources t root ps
      ⟨log ++ rest.log, rest.result.map fun c => ds ++ c⟩

/-- The catalog of the sources that paths stand for. -/
def buildCatalog (t : FileTree) (paths : List Path) (root : Path) : Reported Catalog :=
  match findSources t paths with
  | ⟨log, .error e⟩ => ⟨log, .error e⟩
  | ⟨log, .ok sources⟩ =>
    let r := readSources t root sources
    ⟨log ++ r.log, r.result⟩

namespace Project

/-- What is reported of a catalog. -/
def discovered (c : Catalog) : Record :=
  ⟨.info, .pipeline, "Discovered " ++ Decimal.text c.length ++ " step definition(s)"⟩

/-- The catalog of a project. -/
def loadCatalog (p : Project) (c : Config) : Reported Catalog :=
  match Config.paths c.stepsDirs, p.pathOf c.sourceRoot with
  | .error e, _ => ⟨[], .error e⟩
  | .ok _, .error e => ⟨[], .error e⟩
  | .ok dirs, .ok root =>
    match buildCatalog p.tree (dirs.map p.root.«to») root with
    | ⟨log, .error e⟩ => ⟨log, .error e⟩
    | ⟨log, .ok catalog⟩ => ⟨log ++ [discovered catalog], .ok catalog⟩

end Project

end Acceptance
