import Acceptance.Project.Config

/-!
# Places of a command

A command works on what lies below the project, and on the places outside of it that its words or
the configuration name.
-/

namespace Acceptance.Command

/-- The texts of a setting. -/
def settingTexts : Json → List String
  | .str s => [s]
  | v => (Config.items? v |>.getD []).filterMap fun
    | .str s => some s
    | _ => none

/-- The settings of a project that may be paths. -/
def settings (p : Project) : List String :=
  match p.loadConfig with
  | .ok c => c.members.flatMap fun m => settingTexts m.2
  | .error _ => []

/-- The places outside of a project that words and settings name. -/
def outerPlaces (p : Project) (words : List String) : List Location :=
  let places := (words ++ settings p).map fun s => (p.root.«to» (.ofText s)).normal p.tree.here
  (places.filter fun l => !p.root.parts.isPrefixOf l).eraseDups

end Acceptance.Command
