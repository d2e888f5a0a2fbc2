import Acceptance.Source.Literal
import Acceptance.Source.Syntax

/-!
# The text of an expression

Expressions are printed on one line with a blank around operators and no brackets but those that
the binding of operators asks for.  An expression stands at a binding level; it is bracketed when
its own level is below that.

    print e = text        the text of a type note
-/

namespace Acceptance.Source

open Acceptance.Text

/-! ## Binding levels -/

namespace Binding

def assign : Nat := 1
def tuple : Nat := 2
def yield : Nat := 3
def test : Nat := 4
def or : Nat := 5
def and : Nat := 6
def not : Nat := 7
def compare : Nat := 8
def operand : Nat := 9
def factor : Nat := 15
def power : Nat := 16
def await : Nat := 17
def atom : Nat := 18

end Binding

namespace BoolOp

def sign : BoolOp → String
  | and => "and"
  | or => "or"

def level : BoolOp → Nat
  | and => Binding.and
  | or => Binding.or

end BoolOp

namespace BinaryOp

def sign : BinaryOp → String
  | add => "+"
  | sub => "-"
  | mul => "*"
  | matMul => "@"
  | div => "/"
  | floorDiv => "//"
  | mod => "%"
  | pow => "**"
  | shiftLeft => "<<"
  | shiftRight => ">>"
  | bitOr => "|"
  | bitXor => "^"
  | bitAnd => "&"

def level : BinaryOp → Nat
  | bitOr => 9
  | bitXor => 10
  | bitAnd => 11
  | shiftLeft | shiftRight => 12
  | add | sub => 13
  | mul | matMul | div | floorDiv | mod => 14
  | pow => Binding.power

end BinaryOp

namespace UnaryOp

def sign : UnaryOp → String
  | plus => "+"
  | minus => "-"
  | invert => "~"
  | not => "not "

def level : UnaryOp → Nat
  | not => Binding.not
  | _ => Binding.factor

end UnaryOp

def CompareOp.sign : CompareOp → String
  | .eq => "=="
  | .notEq => "!="
  | .lt => "<"
  | .le => "<="
  | .gt => ">"
  | .ge => ">="
  | .is => "is"
  | .isNot => "is not"
  | .inside => "in"
  | .notInside => "not in"

/-! ## Literals inside formatted texts -/

/-- Whether a text occurs in another. -/
def occursIn (part : List Char) : List Char → Bool
  | [] => part.isEmpty
  | c :: cs => part.isPrefixOf (c :: cs) || occursIn part cs

/-- A character of a literal whose quotes are chosen to need no escape. -/
def escapeUnlessQuote (escapeBreaks : Bool) (c : Char) : List Char :=
  if !escapeBreaks && (c == '\n' || c == '\t') then [c]
  else escapeLiteral '\\' c

/-- The quotes that a literal may stand in, in order of preference. -/
def quoteStyles : List (List Char) := [['\x27'], ['"'], ['"', '"', '"'], ['\x27', '\x27', '\x27']]

/-- A text as the body of a literal, with the quotes among `styles` that may enclose it. -/
def styledBody (styles : List (List Char)) (escapeBreaks : Bool) (s : List Char) :
    List Char × List (List Char) :=
  let escaped := s.flatMap (escapeUnlessQuote escapeBreaks)
  let fitting := styles.filter fun q =>
    (q.length = 3 || !escaped.contains '\n') && !occursIn q escaped
  match fitting with
  | [] =>
    let d := delimiter s
    let quote := (styles.find? fun q => q.contains d).getD [d]
    (s.flatMap (escapeLiteral d), [quote])
  | _ =>
    match escaped.getLast? with
    | none => (escaped, fitting)
    | some last =>
      let sorted := fitting.filter (fun q => q.head? != some last) ++
        fitting.filter fun q => q.head? == some last
      match sorted with
      | q :: _ =>
        if q.head? = some last then (escaped.dropLast ++ ['\\', last], sorted)
        else (escaped, sorted)
      | [] => (escaped, sorted)

/-- A text as a literal with as few backslashes as its quotes allow. -/
def plainLiteral (s : String) : String :=
  let (body, styles) := styledBody quoteStyles false s.toList
  let q := styles.headD ['\x27']
  .ofList (q ++ body ++ q)

/-- The bodies of the parts of a formatted text in quotes that serve all of them; the flag of a
part says that it is plain text. -/
def styledParts (styles : List (List Char)) :
    List (String × Bool) → Option (List Char × List (List Char))
  | [] => some ([], styles)
  | (s, plain) :: parts =>
    let (body, fitting) := styledBody styles plain s.toList
    if fitting.all fun q => !styles.contains q then none
    else (styledParts fitting parts).map fun r => (body ++ r.1, r.2)

/-- A formatted text from the texts of its parts. -/
def formattedLiteral (parts : List (String × Bool)) : String :=
  match styledParts quoteStyles parts with
  | some (body, styles) =>
    let q := styles.headD ['\x27']
    .ofList (q ++ body ++ q)
  | none =>
    let q := ['\x27', '\x27', '\x27']
    .ofList (q ++ (parts.flatMap fun p => p.1.toList.flatMap (escapeLiteral '\x27')) ++ q)

/-- Braces of a formatted text are written twice. -/
def doubleBraces (s : String) : String :=
  .ofList (s.toList.flatMap fun c => if c = '\x7b' ∨ c = '\x7d' then [c, c] else [c])

/-! ## Expressions -/

/-- Brackets around a text if need be. -/
def bracketIf (b : Bool) (s : String) : String := if b then "(" ++ s ++ ")" else s

/-- Texts with commas between them; a single one has a comma behind it. -/
def tupleText : List String → String
  | [s] => s ++ ","
  | parts => ", ".intercalate parts

/-- Whether an attribute needs a blank in front of its point. -/
def Expr.isInteger : Expr → Bool
  | .number (.integer _) => true
  | .constant w => w == "True" || w == "False"
  | _ => false

/-- The level at which an index stands: a tuple that is not empty needs no brackets there. -/
def Expr.indexLevel : Expr → Nat
  | .tuple _ => Binding.tuple
  | _ => Binding.test

/-- The levels of the operands of a chain, each one above that of the operand before it. -/
def risingLevel (base i : Nat) : Nat := min (base + i + 1) Binding.atom

mutual

/-- The text of an expression at a binding level; `inner` says that it stands inside a formatted
text, where backslashes are avoided. -/
def printAt (inner : Bool) (level : Nat) : Expr → String
  | .name id => id
  | .number n => n.text
  | .text s marked => (if marked then "u" else "") ++ (if inner then plainLiteral s else literal s)
  | .bytes s => bytesLiteral s
  | .constant w => w
  | .formatted parts =>
    if inner then "f" ++ plainLiteral (printParts parts)
    else "f" ++ formattedLiteral (printFlagged parts)
  | .boolean op operands =>
    bracketIf (level > op.level)
      ((" " ++ op.sign ++ " ").intercalate (printRising inner op.level 0 operands))
  | .assign target value =>
    bracketIf (level > Binding.assign) (target ++ " := " ++ printAt inner Binding.atom value)
  | .binary op left right =>
    let (l, r) := if op = .pow then (op.level + 1, op.level) else (op.level, op.level + 1)
    bracketIf (level > op.level)
      (printAt inner l left ++ " " ++ op.sign ++ " " ++ printAt inner r right)
  | .unary op operand =>
    bracketIf (level > op.level) (op.sign ++ printAt inner op.level operand)
  | .lambda ps body =>
    let parameters := printParameters inner ps
    bracketIf (level > Binding.test)
      ("lambda" ++ (if parameters.isEmpty then "" else " " ++ parameters) ++ ": " ++
        printAt inner Binding.test body)
  | .conditional test body otherwise =>
    bracketIf (level > Binding.test)
      (printAt inner Binding.or body ++ " if " ++ printAt inner Binding.or test ++ " else " ++
        printAt inner Binding.test otherwise)
  | .dict entries => "\x7b" ++ ", ".intercalate (printEntries inner entries) ++ "\x7d"
  | .set items => "\x7b" ++ ", ".intercalate (printAll inner items) ++ "\x7d"
  | .listOf item clauses =>
    "[" ++ printAt inner Binding.test item ++ printClauses inner clauses ++ "]"
  | .setOf item clauses =>
    "\x7b" ++ printAt inner Binding.test item ++ printClauses inner clauses ++ "\x7d"
  | .dictOf key value clauses =>
    "\x7b" ++ printAt inner Binding.test key ++ ": " ++ printAt inner Binding.test value ++
      printClauses inner clauses ++ "\x7d"
  | .generator item clauses =>
    "(" ++ printAt inner Binding.test item ++ printClauses inner clauses ++ ")"
  | .await operand =>
    bracketIf (level > Binding.await) ("await " ++ printAt inner Binding.atom operand)
  | .yield none => bracketIf (level > Binding.yield) "yield"
  | .yield (some value) =>
    bracketIf (level > Binding.yield) ("yield " ++ printAt inner Binding.atom value)
  | .yieldFrom value =>
    bracketIf (level > Binding.yield) ("yield from " ++ printAt inner Binding.atom value)
  | .compare left rest =>
    bracketIf (level > Binding.compare)
      (printAt inner Binding.operand left ++ printComparisons inner rest)
  | .call function arguments named =>
    printAt inner Binding.atom function ++ "(" ++
      ", ".intercalate (printAll inner arguments ++ printNamed inner named) ++ ")"
  | .attribute value name =>
    printAt inner Binding.atom value ++ (if value.isInteger then " ." else ".") ++ name
  | .subscript value index =>
    printAt inner Binding.atom value ++ "[" ++ printAt inner index.indexLevel index ++ "]"
  | .starred value => "*" ++ printAt inner Binding.operand value
  | .list items => "[" ++ ", ".intercalate (printAll inner items) ++ "]"
  | .tuple items =>
    bracketIf (items.isEmpty || level > Binding.tuple) (tupleText (printAll inner items))
  | .slice lower upper step =>
    printMaybe inner lower ++ ":" ++ printMaybe inner upper ++
      (if step.isSome then ":" ++ printMaybe inner step else "")

def printMaybe (inner : Bool) : Option Expr → String
  | none => ""
  | some e => printAt inner Binding.test e

def printAll (inner : Bool) : List Expr → List String
  | [] => []
  | e :: es => printAt inner Binding.test e :: printAll inner es

def printComparisons (inner : Bool) : List Comparison → String
  | [] => ""
  | .mk op e :: rest =>
    " " ++ op.sign ++ " " ++ printAt inner Binding.operand e ++ printComparisons inner rest

def printNamed (inner : Bool) : List Named → List String
  | [] => []
  | .mk none e :: rest => ("**" ++ printAt inner Binding.test e) :: printNamed inner rest
  | .mk (some n) e :: rest => (n ++ "=" ++ printAt inner Binding.test e) :: printNamed inner rest

/-- The entries of a dictionary; a whole mapping binds as an operand does. -/
def printEntries (inner : Bool) : List Entry → List String
  | [] => []
  | .mk none e :: rest => ("**" ++ printAt inner Binding.operand e) :: printEntries inner rest
  | .mk (some k) e :: rest =>
    (printAt inner Binding.test k ++ ": " ++ printAt inner Binding.test e) ::
      printEntries inner rest

def printRising (inner : Bool) (base i : Nat) : List Expr → List String
  | [] => []
  | e :: es => printAt inner (risingLevel base i) e :: printRising inner base (i + 1) es

def printClauses (inner : Bool) : List Clause → String
  | [] => ""
  | .mk isAsync target source conditions :: clauses =>
    (if isAsync then " async for " else " for ") ++ printAt inner Binding.tuple target ++ " in " ++
      printAt inner Binding.or source ++ printConditions inner conditions ++
      printClauses inner clauses

def printConditions (inner : Bool) : List Expr → String
  | [] => ""
  | e :: es => " if " ++ printAt inner Binding.or e ++ printConditions inner es

def printParameter (inner : Bool) : Parameter → String
  | .mk name note default =>
    name ++ (if note.isSome then ": " ++ printMaybe inner note else "") ++
      (if default.isSome then "=" ++ printMaybe inner default else "")

def printParameterList (inner : Bool) : List Parameter → List String
  | [] => []
  | p :: ps => printParameter inner p :: printParameterList inner ps

def printParameterMaybe (inner : Bool) : Option Parameter → String
  | none => ""
  | some p => printParameter inner p

def printParameters (inner : Bool) : Parameters → String
  | .mk positionOnly either rest nameOnly named =>
    let first := printParameterList inner positionOnly
    ", ".intercalate
      (first ++ (if first.isEmpty then [] else ["/"]) ++ printParameterList inner either ++
        (if rest.isSome || !nameOnly.isEmpty then
          ["*" ++ printParameterMaybe inner rest] else []) ++
        printParameterList inner nameOnly ++
        (if named.isSome then ["**" ++ printParameterMaybe inner named] else []))

/-- The text of one part of a formatted text, without its quotes. -/
def printPart : Part → String
  | .text s => doubleBraces s
  | .value e conversion spec =>
    let text := printAt true Binding.or e
    "\x7b" ++ (if text.toList.head? = some '\x7b' then " " else "") ++ text ++
      (match conversion with | some c => "!" ++ .ofList [c] | none => "") ++
      printSpec spec ++ "\x7d"

def printSpec : Option (List Part) → String
  | none => ""
  | some parts => ":" ++ printParts parts

def printParts : List Part → String
  | [] => ""
  | p :: ps => printPart p ++ printParts ps

/-- The texts of the parts, each with whether it is plain. -/
def printFlagged : List Part → List (String × Bool)
  | [] => []
  | .text s :: ps => (doubleBraces s, true) :: printFlagged ps
  | p :: ps => (printPart p, false) :: printFlagged ps

end

/-- The text of an expression that stands on its own. -/
def print (e : Expr) : String := printAt false Binding.test e

end Acceptance.Source
