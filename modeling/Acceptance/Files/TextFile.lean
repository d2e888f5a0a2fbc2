import Acceptance.Files.Tree
import Acceptance.Text.Utf8

/-!
# Files of text

A text is written as UTF-8.  When it is read, every line end becomes a line feed.

    t.readText p        the text of a file, or why it has none
-/

namespace Acceptance

open Acceptance.Text

/-- Why a text cannot be read. -/
inductive TextError where
  | file (e : FileError)
  | bytes (f : ByteFault)
  deriving Repr, DecidableEq

def TextError.message : TextError → String
  | file e => e.message
  | bytes f => f.message

namespace FileTree

def readText (t : FileTree) (p : Path) : Except TextError String :=
  match t.readBytes p with
  | .error e => .error (.file e)
  | .ok bytes =>
    match decode bytes with
    | .error f => .error (.bytes f)
    | .ok s => .ok (.ofList (unifyLineEnds s.toList))

def writeText (t : FileTree) (p : Path) (s : String) : Except FileError FileTree :=
  t.writeBytes p s.toUTF8

end FileTree

end Acceptance
