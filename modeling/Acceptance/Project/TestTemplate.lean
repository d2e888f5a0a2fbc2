import Acceptance.Project.Config
import Acceptance.Template.Bundled

/-!
# The template of a project

A configuration may name a template; otherwise the files of the template directory that end as
templates do are candidates, and the first one in order is used.

    p.templates c        the candidates
    p.installTemplate c  puts the bundled template into a template directory without any
-/

namespace Acceptance

open Acceptance.Text

def templateEnding : String := ".j2"

/-- The name of the bundled template. -/
def bundledName : String := "pytest.py.j2"

namespace Project

/-- The templates that may be used, the one to use first. -/
def templates (p : Project) (c : Config) : Except ProjectError (List Path) :=
  if c.template.truthy then
    match p.pathOf c.template with
    | .error e => .error e
    | .ok path =>
      match p.probe path with
      | .error e => .error e
      | .ok (some (.file _)) => .ok [path]
      | .ok _ => .ok []
  else
    match p.pathOf c.templatesDir with
    | .error e => .error e
    | .ok directory =>
      match p.probe directory with
      | .error e => .error e
      | .ok _ => .ok ((p.tree.list directory (hasEnding templateEnding)).filter p.tree.isFile)

/-- Where a template was looked for. -/
def templatePlace (c : Config) : String :=
  match c.template, c.templatesDir with
  | .str s, .str directory => if s = "" then directory ++ "/*" ++ templateEnding else s
  | .str s, _ => s
  | _, .str directory => directory ++ "/*" ++ templateEnding
  | _, _ => ""

/-- The template to use. -/
def findTemplate (p : Project) (c : Config) : Except ProjectError Path :=
  match p.templates c with
  | .error e => .error e
  | .ok [] => .error (.noTemplate (templatePlace c))
  | .ok (path :: _) => .ok path

/-- Puts the bundled template into the template directory, unless something there ends as templates
do. -/
def installTemplate (p : Project) (c : Config) : Changed (Option Path) :=
  match p.pathOf c.templatesDir with
  | .error e => ⟨p, .error e⟩
  | .ok directory =>
    match p.tree.ensureAll directory with
    | (t, some e) => ⟨p.withTree t, .error (.file e)⟩
    | (t, none) =>
      if (t.list directory (hasEnding templateEnding)).isEmpty then
        let target := directory.child bundledName
        match t.writeText target Template.bundled with
        | .error e => ⟨p.withTree t, .error (.file e)⟩
        | .ok t => ⟨p.withTree t, .ok (some target)⟩
      else ⟨p.withTree t, .ok none⟩

end Project

end Acceptance
