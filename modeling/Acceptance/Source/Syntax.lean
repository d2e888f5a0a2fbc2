import Acceptance.Source.Number

/-!
# Syntax of step sources

The syntax trees of a step source.  Expressions are kept whole, since type notes are printed
again; of statements only the classes, the functions and the nesting of blocks are kept.
-/

namespace Acceptance.Source

inductive BoolOp where
  | and
  | or
  deriving Repr, DecidableEq

inductive BinaryOp where
  | add
  | sub
  | mul
  | matMul
  | div
  | floorDiv
  | mod
  | pow
  | shiftLeft
  | shiftRight
  | bitOr
  | bitXor
  | bitAnd
  deriving Repr, DecidableEq

inductive UnaryOp where
  | plus
  | minus
  | invert
  | not
  deriving Repr, DecidableEq

inductive CompareOp where
  | eq
  | notEq
  | lt
  | le
  | gt
  | ge
  | is
  | isNot
  | inside
  | notInside
  deriving Repr, DecidableEq

mutual

/-- An expression. -/
inductive Expr where
  | name (id : String)
  | number (n : Number)
  /-- A text; `marked` keeps the mark `u` in front of its first literal. -/
  | text (s : String) (marked : Bool)
  | bytes (s : String)
  | constant (word : String)
  /-- A text with expressions in it. -/
  | formatted (parts : List Part)
  | boolean (op : BoolOp) (operands : List Expr)
  | assign (target : String) (value : Expr)
  | binary (op : BinaryOp) (left right : Expr)
  | unary (op : UnaryOp) (operand : Expr)
  | lambda (parameters : Parameters) (body : Expr)
  | conditional (test body otherwise : Expr)
  | dict (entries : List Entry)
  | set (items : List Expr)
  | listOf (item : Expr) (clauses : List Clause)
  | setOf (item : Expr) (clauses : List Clause)
  | dictOf (key value : Expr) (clauses : List Clause)
  | generator (item : Expr) (clauses : List Clause)
  | await (operand : Expr)
  | yield (value : Option Expr)
  | yieldFrom (value : Expr)
  | compare (left : Expr) (rest : List Comparison)
  | call (function : Expr) (arguments : List Expr) (named : List Named)
  | attribute (value : Expr) (name : String)
  | subscript (value index : Expr)
  | starred (value : Expr)
  | list (items : List Expr)
  | tuple (items : List Expr)
  | slice (lower upper step : Option Expr)

/-- An entry of a dictionary; one without a key is a whole mapping. -/
inductive Entry where
  | mk (key : Option Expr) (value : Expr)

/-- A value of a call by its name; one without a name is a whole mapping. -/
inductive Named where
  | mk (name : Option String) (value : Expr)

/-- A further operand of a chain of comparisons. -/
inductive Comparison where
  | mk (op : CompareOp) (operand : Expr)

/-- A part of a formatted text. -/
inductive Part where
  | text (s : String)
  | value (e : Expr) (conversion : Option Char) (spec : Option (List Part))

/-- A clause of a comprehension. -/
inductive Clause where
  | mk (isAsync : Bool) (target source : Expr) (conditions : List Expr)

/-- A parameter with its type note and its default. -/
inductive Parameter where
  | mk (name : String) (note default : Option Expr)

/-- The parameters of a function: those taken by position only, those taken either way, the one
that takes all further positions, those taken by name only, and the one that takes all further
names. -/
inductive Parameters where
  | mk (positionOnly either : List Parameter) (rest : Option Parameter) (nameOnly : List Parameter)
      (named : Option Parameter)

end

namespace Parameter

def name : Parameter → String
  | mk n _ _ => n

def note : Parameter → Option Expr
  | mk _ a _ => a

def default : Parameter → Option Expr
  | mk _ _ d => d

end Parameter

namespace Parameters

def positionOnly : Parameters → List Parameter
  | mk p _ _ _ _ => p

def either : Parameters → List Parameter
  | mk _ e _ _ _ => e

def rest : Parameters → Option Parameter
  | mk _ _ r _ _ => r

def nameOnly : Parameters → List Parameter
  | mk _ _ _ n _ => n

def named : Parameters → Option Parameter
  | mk _ _ _ _ n => n

/-- The parameters that take a position each. -/
def positional (ps : Parameters) : List Parameter := ps.positionOnly ++ ps.either

end Parameters

/-- A statement; `compound` holds the blocks of a statement that is neither class nor function. -/
inductive Stmt where
  | simple
  | classDef (name : String) (decorators : List Expr) (body : List Stmt)
  | functionDef (name : String) (decorators : List Expr) (parameters : Parameters)
      (body : List Stmt)
  | compound (blocks : List (List Stmt))

instance : Inhabited Expr := ⟨.constant "None"⟩

end Acceptance.Source
