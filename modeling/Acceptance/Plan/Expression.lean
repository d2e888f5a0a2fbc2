import Acceptance.Plan.Name
import Acceptance.Text.Quoted

/-!
# Argument expressions

What a step call passes for a text of the step.  A text that is a reference to a column of the
outline passes the column's parameter; a text that reads as a number passes the number where the
step method asks for one; any other text passes itself.

    (Expression.ofText value type outline).source        the expression as source text
-/

namespace Acceptance.Plan

open Acceptance.Text

/-- The types whose values are written without quotes. -/
inductive NumberType where
  | integer
  | real
  deriving Repr, DecidableEq

namespace NumberType

def name : NumberType → String
  | integer => "int"
  | real => "float"

def ofName? (s : String) : Option NumberType := [integer, real].find? fun t => t.name == s

end NumberType

/-! ## Number texts -/

/-- A text without its sign. -/
def dropSign : List Char → List Char
  | '+' :: rest => rest
  | '-' :: rest => rest
  | cs => cs

/-- A text without one line feed at its end. -/
def dropLineFeed (cs : List Char) : List Char :=
  if cs.getLast? = some '\n' then cs.dropLast else cs

def isDigits (cs : List Char) : Bool := !cs.isEmpty && cs.all isDecimalDigit

/-- Whether a text is an exponent, or empty. -/
def isExponent : List Char → Bool
  | [] => true
  | c :: rest => (c == 'e' || c == 'E') && isDigits (dropSign rest)

/-- Whether a text without a sign is a number with a point or an exponent, or an integer. -/
def isReal (cs : List Char) : Bool :=
  let whole := cs.takeWhile isDecimalDigit
  match cs.dropWhile isDecimalDigit with
  | '.' :: rest =>
    let fraction := rest.takeWhile isDecimalDigit
    (!whole.isEmpty || !fraction.isEmpty) && isExponent (rest.dropWhile isDecimalDigit)
  | rest => !whole.isEmpty && isExponent rest

/-- Whether a text is written as a number of a type. -/
def NumberType.accepts (t : NumberType) (text : String) : Bool :=
  let body := dropSign (dropLineFeed text.toList)
  match t with
  | .integer => isDigits body
  | .real => isReal body

/-! ## Outlines -/

/-- A column of an outline with the name of its parameter. -/
structure Column where
  header : String
  parameter : String
  deriving Repr, DecidableEq

abbrev Outline := List Column

/-- The parameter of a column; of columns with one header, the last. -/
def Outline.parameter? (o : Outline) (header : String) : Option String :=
  (o.reverse.find? fun c => c.header == header).map (·.parameter)

/-! ## Expressions -/

/-- What a step call passes. -/
inductive Expression where
  | named (name : String)
  /-- A named value read as a number. -/
  | number (type : NumberType) (name : String)
  /-- A number as written in the step. -/
  | verbatim (text : String)
  | literal (text : String)
  | nothing
  deriving Repr, DecidableEq

namespace Expression

def source : Expression → String
  | named name => name
  | number type name => type.name ++ "(" ++ name ++ ")"
  | verbatim text => text
  | literal text => quote text
  | nothing => "None"

/-- What is passed for a text to a parameter of a type. -/
def ofText (value typeName : String) (o : Outline) : Expression :=
  match (wholeReference? value).bind o.parameter?, NumberType.ofName? typeName with
  | some name, some type => .number type name
  | some name, none => .named name
  | none, some type => if type.accepts value then .verbatim value else .literal value
  | none, none => .literal value

end Expression

end Acceptance.Plan
