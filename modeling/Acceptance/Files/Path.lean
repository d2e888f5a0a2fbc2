import Acceptance.Text.Blank

/-!
# Paths

A path is a row of parts, taken from the root or from wherever one is.  Empty parts and `.` do not
count; `..` stays, since what it leads to depends on the tree.

    (p.below? root) = some q      `q` leads from `root` to `p`
    normal here p                 the parts from the root, every `..` taken back
-/

namespace Acceptance

open Acceptance.Text

/-- A path: the number of slashes in front, none where it is relative, and its parts. -/
structure Path where
  slashes : Nat
  parts : List String
  deriving Repr, DecidableEq

namespace Path

/-! ## Reading and writing -/

/-- Whether a text counts as a part of a path. -/
def isPart (part : String) : Bool := part != "" && part != "." && !part.toList.contains '/'

/-- The parts of a text between slashes. -/
def partsOf (cs : List Char) : List String :=
  ((splitAt '/' cs).filter fun p => p != [] && p != ['.']).map .ofList

/-- The path of a text.  Two slashes in front stay two; more are one. -/
def ofText (s : String) : Path :=
  let slashes := (s.toList.takeWhile (· == '/')).length
  ⟨if slashes ≤ 2 then slashes else 1, partsOf s.toList⟩

def text (p : Path) : String :=
  if p.slashes = 0 ∧ p.parts = [] then "."
  else .ofList (List.replicate p.slashes '/') ++ join "/" p.parts

def isAbsolute (p : Path) : Bool := p.slashes != 0

/-- Whether a text has a null character. -/
def hasNullChar (s : String) : Bool := s.toList.contains '\x00'

/-- Whether a path has a null character; no request is made with such a path. -/
def hasNull (p : Path) : Bool := p.parts.any hasNullChar

/-! ## Parts -/

/-- Where a path leads to from another one. -/
def «to» (p q : Path) : Path := if q.isAbsolute then q else ⟨p.slashes, p.parts ++ q.parts⟩

/-- The path of a part below a path. -/
def child (p : Path) (part : String) : Path := ⟨p.slashes, p.parts ++ [part]⟩

def name (p : Path) : String := p.parts.getLast?.getD ""

def parent (p : Path) : Path := ⟨p.slashes, p.parts.dropLast⟩

/-- A name without and from its last dot; a dot at either end parts nothing. -/
def splitName (cs : List Char) : List Char × List Char :=
  let ending := cs.reverse.takeWhile (· != '.')
  let start := cs.take (cs.length - ending.length - 1)
  if ending = [] ∨ start = [] then (cs, []) else (start, cs.drop start.length)

def stem (p : Path) : String := .ofList (splitName p.name.toList).1

def suffix (p : Path) : String := .ofList (splitName p.name.toList).2

/-- The path below another one; none where it does not begin with that. -/
def below? (p root : Path) : Option Path :=
  if p.slashes = root.slashes ∧ root.parts.isPrefixOf p.parts then
    some ⟨0, p.parts.drop root.parts.length⟩
  else none

/-- A path as messages show it: from the root of the project, where it lies below. -/
def shown (p root : Path) : String := ((p.below? root).getD p).text

/-- The parts of a path from the root, every `..` taken back. -/
def normal (here : List String) (p : Path) : List String :=
  (if p.isAbsolute then p.parts else here ++ p.parts).foldl
    (fun l part => if part = ".." then l.dropLast else l ++ [part]) []

/-! ## Order -/

/-- Whether a row of parts does not come behind another one. -/
def inOrder : List String → List String → Bool
  | [], _ => true
  | _ :: _, [] => false
  | a :: as, b :: bs => if a = b then inOrder as bs else a < b

/-- Paths in the order of their parts. -/
def sort (ps : List Path) : List Path := ps.mergeSort fun a b => inOrder a.parts b.parts

end Path

end Acceptance
