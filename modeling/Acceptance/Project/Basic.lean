import Acceptance.Files.TextFile

/-!
# Projects

A project is a tree of files with the directory that the project is kept in.  What stops a request
altogether is a `ProjectError`; what goes wrong with a single feature is not.
-/

namespace Acceptance

open Acceptance.Text

structure Project where
  tree : FileTree
  root : Path

/-- Why a request of a project fails. -/
inductive ProjectError where
  | file (e : FileError)
  | bytes (f : ByteFault)
  /-- A setting of the wrong kind. -/
  | wrongKind
  /-- A step source without a name of its own. -/
  | unnamed
  | noConfig (path : String)
  | config (message : String)
  | uninitialized
  | noTemplate (place : String)
  deriving Repr, DecidableEq

namespace ProjectError

def ofText : TextError → ProjectError
  | .file e => .file e
  | .bytes f => .bytes f

def message : ProjectError → String
  | file e => e.message
  | bytes f => f.message
  | wrongKind => "unsupported kind of setting"
  | unnamed => "PosixPath('.') has an empty name"
  | noConfig path => "No config found at " ++ path
  | config message => message
  | uninitialized => "Project is not initialized. Run `feature-gen init` first."
  | noTemplate place =>
    "No template found at " ++ place ++ ". Run `feature-gen init` to install the default."

end ProjectError

/-- What a request that changes files comes to. -/
structure Changed (α : Type) where
  project : Project
  result : Except ProjectError α

namespace Project

/-- A project with another tree. -/
def withTree (p : Project) (t : FileTree) : Project := { p with tree := t }

/-- What a path of a project leads to, if anything. -/
def probe (p : Project) (path : Path) : Except ProjectError (Option Node) :=
  (p.tree.probe path).mapError .file

/-- The text of a file of a project. -/
def readText (p : Project) (path : Path) : Except ProjectError String :=
  match p.tree.readText path with
  | .ok s => .ok s
  | .error e => .error (.ofText e)

end Project

/-- Whether a name ends so. -/
def hasEnding (ending name : String) : Bool := ending.toList.isSuffixOf name.toList

end Acceptance
