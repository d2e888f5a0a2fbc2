import Acceptance.Command.Outcome
import Acceptance.Command.Places

/-!
# The command line

Reads the working directory into a tree, performs the command on it, and writes what the command
changed.
-/

namespace Acceptance.CommandLine

/-- Reads what an entry of a directory stands for into a tree. -/
partial def readEntry (t : FileTree) (entry : IO.FS.DirEntry) : IO FileTree := do
  let place := (Path.ofText entry.path.toString).parts
  match (← entry.path.metadata).type with
  | .dir => (← entry.path.readDir).foldlM readEntry (t.putDirectory place)
  | .file => return t.putFile place (← IO.FS.readBinFile entry.path)
  | _ => return t

/-- Reads a place with what lies below it into a tree. -/
def readPlace (t : FileTree) (place : Location) : IO FileTree := do
  let path : Path := ⟨1, place⟩
  let above := (t.ensureAll path.parent).1
  try
    readEntry above { root := path.parent.text, fileName := path.name }
  catch _ => return t

/-- Writes what is new or different in a tree. -/
def writeChanges (before after : FileTree) : IO Unit :=
  after.nodes.forM fun (place, node) => do
    let path : Path := ⟨1, place⟩
    match node, before.node? place with
    | .directory, none => IO.FS.createDirAll path.text
    | .file bytes, some (.file old) => if bytes != old then IO.FS.writeBinFile path.text bytes
    | .file bytes, none => IO.FS.writeBinFile path.text bytes
    | _, _ => return

/-- Performs a command line in the working directory and gives its exit code. -/
def perform (words : List String) : IO UInt32 := do
  let here := (Path.ofText (← IO.currentDir).toString).parts
  let root : Path := ⟨1, here⟩
  let inner : Project := ⟨← readPlace (.empty here) here, root⟩
  let project := inner.withTree (← (Command.outerPlaces inner words).foldlM readPlace inner.tree)
  let (outcome, level) := Command.run project words
  writeChanges project.tree outcome.project.tree
  IO.print outcome.output
  IO.eprint (outcome.recordText level)
  match outcome.ending with
  | .crash e => IO.eprintln e.message
  | .misuse => IO.eprintln "Usage: feature-gen [OPTIONS] COMMAND [ARGS]..."
  | _ => pure ()
  return UInt32.ofNat outcome.ending.code

end Acceptance.CommandLine

def main (words : List String) : IO UInt32 := Acceptance.CommandLine.perform words
