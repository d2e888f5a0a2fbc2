import Acceptance.Source.CasePattern

/-!
# Reading statements

The grammar of statements and blocks.  A source is read whole or not at all.

    readSource text = some body        the statements of a source text
-/

namespace Acceptance.Source

open Acceptance.Text Scan Source.Parser

/-- What the rules for statements are built from: the expressions, and the depth to which patterns
and blocks are nested. -/
structure Scope where
  inner : Inner
  depth : Nat

namespace Scope

variable (s : Scope)

/-! ## Simple statements -/

def assignmentMarks : List String :=
  ["+=", "-=", "*=", "/=", "//=", "%=", "@=", "&=", "|=", "^=", ">>=", "<<=", "**="]

/-- What stands behind the first expression of a statement: values to bind, or an annotation. -/
def behindExpression (e : Expr) : Parser Unit := do
  match ← peek with
  | some (.op ":") => do
    discard next
    ensure e.isPlace
    discard s.inner.test
    if ← tryMark "=" then discard s.inner.assigned else pure ()
  | some (.op "=") => do
    let values ← several (mark "=" *> s.inner.assigned)
    ensure ((e :: values.dropLast).all Expr.isTarget)
  | some (.op m) =>
    if assignmentMarks.contains m then
      discard next
      ensure e.isPlace
      discard s.inner.assigned
    else pure ()
  | _ => pure ()

def expressionStatement : Parser Unit := do
  let e ← s.inner.stars
  s.behindExpression e

/-- A name with points in it. -/
def dottedName : Parser Unit := do
  discard name
  discard (many (mark "." *> name))

/-- A new name, if one is given. -/
def renamed : Parser Unit := do
  if ← tryWord "as" then discard name else pure ()

def importNames : Parser Unit := do
  if ← tryMark "*" then pure ()
  else if ← tryMark "(" then
    discard (commaList (name *> renamed))
    mark ")"
  else discard (commas (name *> renamed))

def importFrom : Parser Unit := do
  let dots ← many (mark "." <|> mark "...")
  if dots.isEmpty then dottedName else discard (option dottedName)
  word "import"
  importNames

def deleted : Parser Expr := do
  let e ← s.inner.primary
  ensure e.isDeletable
  pure e

/-- What is raised, and its cause. -/
def raised : Parser Unit := do
  if ← sees [.newline, .op ";"] then pure ()
  else
    discard s.inner.test
    if ← tryWord "from" then discard s.inner.test else pure ()

/-- A statement without a block. -/
def simple : Parser Unit := do
  match ← peek with
  | some (.reserved w) =>
    match w with
    | "pass" | "break" | "continue" => discard next
    | "return" => do
      discard next
      discard (option s.inner.stars)
    | "import" => do
      discard next
      discard (commas (dottedName *> renamed))
    | "from" => do
      discard next
      importFrom
    | "raise" => do
      discard next
      s.raised
    | "del" => do
      discard next
      discard (commaList s.deleted)
    | "yield" => discard s.inner.yielded
    | "assert" => do
      discard next
      discard s.inner.test
      if ← tryMark "," then discard s.inner.test else pure ()
    | "global" | "nonlocal" => do
      discard next
      discard (commas name)
    | _ => s.expressionStatement
  | _ => s.expressionStatement

/-- The statements of one line. -/
def line : Parser (List Stmt) := do
  let first ← s.simple
  let rest ← many (mark ";" *> s.simple)
  discard (tryMark ";")
  item .newline
  return (first :: rest).map fun _ => .simple

/-! ## Blocks -/

section

variable (block : Parser (List Stmt))

/-- A block behind a colon. -/
def colonBlock : Parser (List Stmt) := mark ":" *> block

/-- The block behind a word, if the word is there. -/
def wordBlock (w : String) : Parser (List (List Stmt)) := do
  if ← tryWord w then return [← colonBlock block] else pure []

def ifStatement : Parser (List (List Stmt)) := do
  let first ← s.inner.named *> colonBlock block
  let others ← many (word "elif" *> s.inner.named *> colonBlock block)
  return first :: others ++ (← wordBlock block "else")

def whileStatement : Parser (List (List Stmt)) := do
  let first ← s.inner.named *> colonBlock block
  return first :: (← wordBlock block "else")

def forStatement : Parser (List (List Stmt)) := do
  discard s.inner.targets
  word "in"
  let first ← s.inner.stars *> colonBlock block
  return first :: (← wordBlock block "else")

def withItem : Parser Unit := do
  discard s.inner.test
  if ← tryWord "as" then discard s.inner.target else pure ()

/-- The items of a with statement and the colon behind them. -/
def withHead : Parser Unit :=
  (mark "(" *> commaList s.withItem *> mark ")" *> mark ":") <|> (commas s.withItem *> mark ":")

/-- A handler of a try statement; whether it has a star. -/
def handler : Parser (Bool × List Stmt) := do
  word "except"
  let star ← tryMark "*"
  if star || !(← sees [.op ":"]) then
    discard s.inner.test
    renamed
  else pure ()
  return (star, ← colonBlock block)

def tryStatement : Parser (List (List Stmt)) := do
  let first ← colonBlock block
  let handlers ← many (s.handler block)
  match handlers with
  | [] =>
    word "finally"
    return [first, ← colonBlock block]
  | (star, _) :: _ => do
    ensure (handlers.all (·.1 == star))
    let otherwise ← wordBlock block "else"
    let last ← wordBlock block "finally"
    return first :: handlers.map (·.2) ++ otherwise ++ last

def caseBlock : Parser (List Stmt) := do
  softWord "case"
  CasePattern.patterns s.inner s.depth
  if ← tryWord "if" then discard s.inner.named else pure ()
  colonBlock block

def matchStatement : Parser (List (List Stmt)) := do
  softWord "match"
  let subject ← tupleOf <$> commaList s.inner.starredNamed
  ensure !subject.isStarred
  mark ":"
  item .newline
  item .indent
  let cases ← several (s.caseBlock block)
  item .dedent
  pure cases

def classStatement (decorators : List Expr) : Parser Stmt := do
  let n ← name
  if ← tryMark "(" then discard (s.inner.arguments false) else pure ()
  return .classDef n decorators (← colonBlock block)

def functionStatement (decorators : List Expr) : Parser Stmt := do
  let n ← name
  mark "("
  let ps ← s.inner.parameters true ")"
  mark ")"
  if ← tryMark "->" then discard s.inner.test else pure ()
  return .functionDef n decorators ps (← colonBlock block)

def decorator : Parser Expr := mark "@" *> s.inner.named <* item .newline

/-- A class or a function with its decorators. -/
def decorated : Parser Stmt := do
  let decorators ← several s.decorator
  if ← tryWord "class" then s.classStatement block decorators
  else
    discard (tryWord "async")
    word "def"
    s.functionStatement block decorators

/-- A statement that may be marked as asynchronous. -/
def asyncStatement : Parser Stmt := do
  match ← next with
  | .reserved "def" => s.functionStatement block []
  | .reserved "with" => do
    s.withHead
    return .compound [← block]
  | .reserved "for" => .compound <$> s.forStatement block
  | _ => failure

/-- A statement with blocks. -/
def compound : Parser Stmt := do
  match ← peek with
  | some (.op "@") => s.decorated block
  | some (.reserved w) =>
    match w with
    | "def" | "with" | "for" => s.asyncStatement block
    | "async" => discard next *> s.asyncStatement block
    | "class" => discard next *> s.classStatement block []
    | "if" => Stmt.compound <$> (discard next *> s.ifStatement block)
    | "while" => Stmt.compound <$> (discard next *> s.whileStatement block)
    | "try" => Stmt.compound <$> (discard next *> s.tryStatement block)
    | _ => failure
  | some (.name "match") => Stmt.compound <$> s.matchStatement block
  | _ => failure

/-- One statement, or the statements of one line. -/
def statement : Parser (List Stmt) := (do return [← s.compound block]) <|> s.line

def statements : Parser (List Stmt) := List.flatten <$> several (s.statement block)

end

/-- A block that is nested less than `n` deep. -/
def blockAt : Nat → Parser (List Stmt)
  | 0 => failure
  | n + 1 => do
    if ← tryItem .newline then
      item .indent
      let body ← s.statements (blockAt n)
      item .dedent
      pure body
    else s.line

/-- The statements of a whole source. -/
def source : Parser (List Stmt) := do
  let body ← many (s.statement (s.blockAt s.depth))
  ensure (← get).isEmpty
  return body.flatten

end Scope

/-- The statements of a source text. -/
def readSource (text : String) : Option (List Stmt) :=
  match tokens text with
  | none => none
  | some ts =>
    let depth := text.length + 2
    (Scope.source ⟨Inner.atDepth depth, depth⟩ ts).map (·.1)

end Acceptance.Source
