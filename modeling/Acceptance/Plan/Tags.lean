import Acceptance.Plan.Fault
import Acceptance.Plan.Name

/-!
# Tags of a feature

Three tags of a feature bear on its test module: `@namespace:` names the package it goes to,
`@baseclass:` the base of its class, with the module to import it from, and `@using:` a further
module to import.  Their values are dotted names.
-/

namespace Acceptance.Plan

open Acceptance.Text

/-! ## Dotted names -/

/-- A letter or an underscore of ASCII. -/
def isPlainLetter (c : Char) : Bool := c.isAlpha || c == '_'

/-- A part of a dotted name. -/
def isDottedPart : List Char → Bool
  | [] => false
  | c :: rest => isPlainLetter c && rest.all isWordChar

/-- Whether a text is a dotted name; one line feed may follow it. -/
def isDottedName (value : String) : Bool :=
  let cs := value.toList
  let body := if cs.getLast? = some '\n' then cs.dropLast else cs
  (splitAt '.' body).all isDottedPart

/-- The parts of a dotted name. -/
def dottedParts (value : String) : List String := (splitAt '.' value.toList).map .ofList

/-! ## Tags -/

/-- What a tag says of the test module. -/
inductive Directive where
  | package (name : String)
  | baseClass (name : String)
  | importModule (name : String)
  deriving Repr, DecidableEq

def directives : List (String × (String → Directive)) :=
  [("@namespace:", .package), ("@baseclass:", .baseClass), ("@using:", .importModule)]

/-- The text behind a beginning. -/
def behind? (start text : String) : Option String :=
  if start.toList.isPrefixOf text.toList then some (.ofList (text.toList.drop start.length))
  else none

/-- The directive that a tag gives, whatever its value. -/
def directive? (tag : String) : Option Directive :=
  directives.findSome? fun (start, make) => (behind? start tag).map make

def Directive.value : Directive → String
  | .package v => v
  | .baseClass v => v
  | .importModule v => v

/-- The fault of a tag. -/
def tagFault? (tag : String) : Option Fault :=
  match directive? tag with
  | some d => if isDottedName d.value then none else some (.tag tag)
  | none => none

/-! ## What they add up to -/

/-- The last of some names, or the empty one. -/
def lastName (names : List String) : String := names.getLast?.getD ""

/-- The package that the tags name; a later tag stands in for an earlier one. -/
def packageOf (tags : List String) : String :=
  lastName (tags.filterMap fun t => match directive? t with
    | some (.package v) => some v
    | _ => none)

/-- The module and the class that a dotted name stands for. -/
def splitClass (value : String) : String × String :=
  let parts := dottedParts value
  (join "." parts.dropLast, lastName parts)

/-- The base class that the tags name. -/
def baseClassOf (tags : List String) : String :=
  lastName (tags.filterMap fun t => match directive? t with
    | some (.baseClass v) => some (splitClass v).2
    | _ => none)

/-- The modules that the tags name, in order. -/
def taggedModules (tags : List String) : List String :=
  (tags.filterMap fun t => match directive? t with
    | some (.baseClass v) => some (splitClass v).1
    | some (.importModule v) => some v
    | _ => none).filter (· != "")

end Acceptance.Plan
