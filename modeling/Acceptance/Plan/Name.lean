import Acceptance.Text.Blank
import Acceptance.Text.Case
import Acceptance.Text.Decimal
import Acceptance.Text.Identifier

/-!
# Invented names

Classes, methods and parameters of a test module are named after the texts of the feature.  A name
keeps the characters that may stand in an identifier; what parts the words of a text is dropped
or becomes an underscore.  Names that must differ are told apart by numbers.

    unique name taken ∉ taken
    uniqueAll names          one name for each, no two the same
-/

namespace Acceptance.Plan

open Acceptance.Text

/-! ## Words -/

/-- The pieces of a text between the characters that satisfy `p`. -/
def pieces (p : Char → Bool) : List Char → List (List Char)
  | [] => [[]]
  | c :: rest =>
    if p c then [] :: pieces p rest
    else match pieces p rest with
      | [] => [[c]]
      | piece :: others => (c :: piece) :: others

/-- The pieces that are not empty. -/
def wordsBetween (p : Char → Bool) (cs : List Char) : List (List Char) :=
  (pieces p cs).filter (!·.isEmpty)

/-- What parts the words of a name: blanks, hyphens and underscores. -/
def isWordGap (c : Char) : Bool := isBlank c || c == '-' || c == '_'

/-- A word with a capital at its start; a capital may be of several characters. -/
def capitalize : List Char → List Char
  | [] => []
  | c :: rest => (upperChar c).filter isIdentifierPart ++ rest

/-! ## Names -/

/-- The words of a text written together, each with a capital. -/
def joinedWords (text : String) : List Char :=
  (wordsBetween isWordGap text.toList).flatMap fun w => capitalize (w.filter isIdentifierPart)

def joinedName (text : String) : String := .ofList (joinedWords text)

/-- A name that is an identifier: one that cannot open one gets an underscore in front. -/
def openName (cs : List Char) : List Char := if isIdentifierList cs then cs else '_' :: cs

/-- A name that is no reserved word: such a word gets an underscore behind. -/
def closeName (reserved : String → Bool) (cs : List Char) : List Char :=
  if reserved (.ofList cs) then cs ++ ['_'] else cs

/-- A name in place of an empty one. -/
def orElse (cs other : List Char) : List Char := if cs.isEmpty then other else cs

/-- The name of the method that stands in for a missing step method. -/
def stubName (text : String) : String :=
  .ofList (closeName isReserved (openName (orElse (joinedWords text) "Step".toList)))

/-- Words that are no names of parameters. -/
def isNoParameter (s : String) : Bool := isReserved s || s == "self"

/-- The name of the parameter for a column or a placeholder. -/
def parameterName (text : String) : String :=
  let words := wordsBetween (fun c => !isIdentifierPart c) text.toList
  let joined := trimWhile (· == '_') (['_'].intercalate words)
  .ofList (closeName isNoParameter (openName (orElse joined "value".toList)))

/-! ## Names that differ -/

/-- The names to try for one: itself, then with 2, 3, … behind. -/
def numbered (name : String) : Nat → String
  | 0 => name
  | n + 1 => name ++ Decimal.text (n + 2)

/-- The first of the names to try that is not taken. -/
def unique (name : String) (taken : List String) : String :=
  (((List.range (taken.length + 1)).map (numbered name)).find? (!taken.contains ·)).getD name

/-- A name for each of some names, where `taken` holds those given before. -/
def uniqueFrom (taken : List String) : List String → List String
  | [] => []
  | name :: names =>
    let n := unique name taken
    n :: uniqueFrom (n :: taken) names

def uniqueAll (names : List String) : List String := uniqueFrom [] names

/-- The first occurrence of each text. -/
def distinct : List String → List String
  | [] => []
  | s :: ss => s :: (distinct ss).filter (· != s)

/-! ## References -/

/-- The texts in angle brackets; `inside` holds the reversed text behind an open bracket. -/
def referencesFrom (inside : Option (List Char)) : List Char → List (List Char)
  | [] => []
  | c :: rest =>
    if c = '<' then referencesFrom (some []) rest
    else if c = '>' then
      match inside with
      | some (d :: ds) => (d :: ds).reverse :: referencesFrom none rest
      | _ => referencesFrom none rest
    else referencesFrom (inside.map (c :: ·)) rest

/-- A reference to a column, with the name of the parameter for it. -/
structure Reference where
  parameter : String
  column : String
  deriving Repr, DecidableEq

/-- Keeps the first reference of each parameter. -/
def distinctReferences : List Reference → List Reference
  | [] => []
  | r :: rs => r :: (distinctReferences rs).filter (·.parameter != r.parameter)

/-- The references in a text in the order of their parameters. -/
def references (text : String) : List Reference :=
  distinctReferences ((referencesFrom none text.toList).map fun cs =>
    ⟨parameterName (.ofList cs), .ofList cs⟩)

/-- The column that a text refers to as a whole. -/
def wholeReference? (text : String) : Option String :=
  match text.toList with
  | '<' :: rest =>
    let name := rest.takeWhile fun c => c != '<' && c != '>'
    if !name.isEmpty && rest.drop name.length == ['>'] then some (.ofList name) else none
  | _ => none

end Acceptance.Plan
