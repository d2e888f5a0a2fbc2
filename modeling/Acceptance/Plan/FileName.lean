import Acceptance.Plan.Basic
import Acceptance.Plan.Tags

/-!
# Names of test modules

A test module is named after its feature file, in lower case with underscores between words, and
goes to the directory that its package names.

    snakeName (snakeName s) = snakeName s
-/

namespace Acceptance.Plan

open Acceptance.Text

/-! ## Snake case -/

def isPlainLower (c : Char) : Bool := c.isLower || c.isDigit

/-- Puts an underscore between a small letter or a digit and a capital. -/
def partCapitals : List Char → List Char
  | c :: d :: rest =>
    if isPlainLower c && d.isUpper then c :: '_' :: partCapitals (d :: rest)
    else c :: partCapitals (d :: rest)
  | cs => cs

/-- An underscore for every character that may not stand in an identifier. -/
def maskOthers (cs : List Char) : List Char := cs.map fun c => if isIdentifierPart c then c else '_'

/-- One underscore for several in a row. -/
def squeeze : List Char → List Char
  | '_' :: '_' :: rest => squeeze ('_' :: rest)
  | c :: rest => c :: squeeze rest
  | [] => []

def snakeList (cs : List Char) : List Char :=
  lowerList (trimWhile (· == '_') (squeeze (maskOthers (partCapitals cs))))

/-- A name in lower case with underscores between its words. -/
def snakeName (name : String) : String := .ofList (snakeList name.toList)

/-! ## Files -/

/-- The name of the test module for a feature file. -/
def outputName (fileName : String) : String :=
  "test_" ++ .ofList (orElse (snakeList fileName.toList) "feature".toList) ++ ".py"

/-- The directories of a package. -/
def packageParts (p : Plan) : List String := if p.package = "" then [] else dottedParts p.package

/-- The directories of a package and the name of the test module in it. -/
def outputParts (p : Plan) : List String := packageParts p ++ [outputName p.fileName]

/-- The path of the test module below the output directory. -/
def outputPath (p : Plan) : String := join "/" (outputParts p)

end Acceptance.Plan
