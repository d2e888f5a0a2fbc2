import Acceptance.Project.TestTemplate

/-!
# Setting up a project

A project is set up by writing its configuration, making the directories that it names and
installing the bundled template.  A project that is set up already keeps its configuration.

    p.setUp c        the paths that were made, and the project behind it
-/

namespace Acceptance

/-- What setting up a project made. -/
structure SetUp where
  config : Path
  features : Path
  template : Option Path

namespace Project

/-- Makes the directory of a setting. -/
def makeSetting (p : Project) (v : Json) : Changed Path :=
  match p.pathOf v with
  | .error e => ⟨p, .error e⟩
  | .ok path =>
    match p.tree.ensureAll path with
    | (t, some e) => ⟨p.withTree t, .error (.file e)⟩
    | (t, none) => ⟨p.withTree t, .ok path⟩

/-- Makes the directories of settings in order. -/
def makeSettings (p : Project) : List Json → Changed Unit
  | [] => ⟨p, .ok ()⟩
  | v :: vs =>
    match p.makeSetting v with
    | ⟨p, .error e⟩ => ⟨p, .error e⟩
    | ⟨p, .ok _⟩ => makeSettings p vs

/-- Makes the directories of the step sources. -/
def makeStepsDirs (p : Project) (c : Config) : Changed Unit :=
  match Config.items? c.stepsDirs with
  | none => ⟨p, .error .wrongKind⟩
  | some items => p.makeSettings items

/-- Sets up a project with a configuration. -/
def setUp (p : Project) (c : Config) : Changed SetUp :=
  match p.saveConfig c with
  | ⟨p, .error e⟩ => ⟨p, .error e⟩
  | ⟨p, .ok config⟩ =>
    match p.makeSetting c.featuresDir with
    | ⟨p, .error e⟩ => ⟨p, .error e⟩
    | ⟨p, .ok features⟩ =>
      match p.makeStepsDirs c with
      | ⟨p, .error e⟩ => ⟨p, .error e⟩
      | ⟨p, .ok ()⟩ =>
        match p.installTemplate c with
        | ⟨p, .error e⟩ => ⟨p, .error e⟩
        | ⟨p, .ok template⟩ => ⟨p, .ok ⟨config, features, template⟩⟩

end Project

end Acceptance
