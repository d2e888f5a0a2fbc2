import Acceptance.Template.Piece
import Acceptance.Template.Syntax
import Acceptance.Text.Scan

/-!
# Reading templates

Expressions bind, from the loosest: `if … else`, `or`, `and`, `not`, comparison, `~`, and then the
steps behind a value: attribute, index, call and filter.  Steering tags nest: a branch, a loop or a
macro holds the nodes up to its end tag.

    Node.read source = some nodes        the nodes of a template
-/

namespace Acceptance.Template

open Acceptance.Text Scan

abbrev WordScan : Type → Type := Scan Word

/-! ## Expressions -/

def mark (s : String) : WordScan Unit := item (.mark s)

def tryMark (s : String) : WordScan Bool := tryItem (.mark s)

def tryWord (s : String) : WordScan Bool := tryItem (.name s)

def aName : WordScan String := do
  match ← next with
  | .name s => pure s
  | _ => failure

/-- Values with commas between them up to a closing bracket. -/
def argumentsTo (whole : WordScan Expr) : WordScan (List Expr) := do
  if ← tryMark ")" then pure []
  else
    let first ← whole
    let rest ← many (mark "," *> whole)
    discard (tryMark ",")
    mark ")"
    return first :: rest

/-- A value that is written out. -/
def literalWord : Word → Option Json
  | .integer n => some (.int n)
  | .name "true" => some (.bool true)
  | .name "True" => some (.bool true)
  | .name "false" => some (.bool false)
  | .name "False" => some (.bool false)
  | .name "none" => some .null
  | .name "None" => some .null
  | _ => none

def aText : WordScan String := do
  match ← next with
  | .text s => pure s
  | _ => failure

def atom (whole : WordScan Expr) : WordScan Expr := do
  match ← peek with
  | some (.text _) => return .literal (.str (String.join (← several aText)))
  | some (.mark "(") => do
    discard next
    let e ← whole
    mark ")"
    pure e
  | some w => do
    discard next
    match literalWord w, w with
    | some v, _ => pure (.literal v)
    | none, .name n => pure (.name n)
    | none, _ => failure
  | none => failure

/-- A step behind a value. -/
def step (whole : WordScan Expr) : WordScan (Expr → Expr) := do
  match ← next with
  | .mark "." => do
    match ← next with
    | .name n => pure fun e => .attribute e n
    | .integer i => pure fun e => .index e (.literal (.int i))
    | _ => failure
  | .mark "[" => do
    let i ← whole
    mark "]"
    pure fun e => .index e i
  | .mark "(" => do
    let es ← argumentsTo whole
    pure fun e => .call e es
  | .mark "|" => do
    let n ← aName
    let es ← if ← tryMark "(" then argumentsTo whole else pure []
    pure fun e => .filter e n es
  | _ => failure

def stepped (whole : WordScan Expr) : WordScan Expr := do
  let e ← atom whole
  return (← many (step whole)).foldl (fun e f => f e) e

def joined (whole : WordScan Expr) : WordScan Expr := do
  let first ← stepped whole
  return (← many (mark "~" *> stepped whole)).foldl .joined first

def comparison (whole : WordScan Expr) : WordScan Expr := do
  let first ← joined whole
  if ← tryMark "==" then return .equal first (← joined whole)
  else if ← tryMark "!=" then return .notEqual first (← joined whole)
  else pure first

def negation (whole : WordScan Expr) : WordScan Expr := do
  let nots ← many (item (.name "not"))
  return nots.foldr (fun _ e => .not e) (← comparison whole)

def conjunction (whole : WordScan Expr) : WordScan Expr := do
  let first ← negation whole
  return (← many (item (.name "and") *> negation whole)).foldl .and first

def disjunction (whole : WordScan Expr) : WordScan Expr := do
  let first ← conjunction whole
  return (← many (item (.name "or") *> conjunction whole)).foldl .or first

/-- What stands behind a value: a test, and a value for where it fails. -/
def condition (whole : WordScan Expr) : WordScan (Expr × Option Expr) := do
  item (.name "if")
  let test ← disjunction whole
  let otherwise ← if ← tryWord "else" then some <$> whole else pure none
  return (test, otherwise)

def conditional (whole : WordScan Expr) : WordScan Expr := do
  let first ← disjunction whole
  let conditions ← many (condition whole)
  return conditions.foldl (fun e (test, otherwise) => .conditional test e otherwise) first

/-- An expression that is nested less than `n` deep. -/
def expression : Nat → WordScan Expr
  | 0 => failure
  | n + 1 => conditional (expression n)

/-- An expression without a condition of its own. -/
def plainExpression (n : Nat) : WordScan Expr := disjunction (expression n)

/-- Takes all words of a tag. -/
def takeAll {α : Type} (p : Nat → WordScan α) (words : List Word) : Option α :=
  match (p (words.length + 1)).run words with
  | some (a, []) => some a
  | _ => none

/-! ## Tags -/

/-- What a steering tag says. -/
inductive Tag where
  | branch (test : Expr)
  | orBranch (test : Expr)
  | otherwise
  | endBranch
  | loop (target : String) (source : Expr)
  | endLoop
  | define (name : String) (parameters : List String)
  | endDefine

/-- The names of a macro's parameters. -/
def parameterNames : WordScan (List String) := do
  mark "("
  if ← tryMark ")" then pure []
  else
    let first ← aName
    let rest ← many (mark "," *> aName)
    discard (tryMark ",")
    mark ")"
    return first :: rest

/-- Words that name no variable. -/
def isLiteralName (n : String) : Bool := (literalWord (.name n)).isSome

def aTarget : WordScan String := do
  let n ← aName
  ensure (!isLiteralName n && n != "loop")
  pure n

def tagAt (n : Nat) : WordScan Tag := do
  let tag ← match ← aName with
    | "if" => Tag.branch <$> plainExpression n
    | "elif" => Tag.orBranch <$> plainExpression n
    | "else" => pure .otherwise
    | "endif" => pure .endBranch
    | "for" => do
      let target ← aTarget
      item (.name "in")
      return .loop target (← plainExpression n)
    | "endfor" => pure .endLoop
    | "macro" => do
      let name ← aTarget
      return .define name (← parameterNames)
    | "endmacro" => pure .endDefine
    | _ => failure
  discard (tryMark ":")
  pure tag

/-- The tag of some words. -/
def Tag.read (words : List Word) : Option Tag := takeAll tagAt words

/-! ## Nodes -/

/-- The nodes up to a tag that is no start, that tag if there is one, and the pieces behind it. -/
abbrev Body := List Node × Option Tag × List Piece

/-- The rest of a branch behind the tag that ends its first body. -/
def branchRest (body : List Piece → Option Body) :
    Nat → Option Tag → List Piece → Option (List Node × List Piece)
  | 0, _, _ => none
  | _ + 1, some .endBranch, ps => some ([], ps)
  | _ + 1, some .otherwise, ps =>
    match body ps with
    | some (nodes, some .endBranch, ps) => some (nodes, ps)
    | _ => none
  | fuel + 1, some (.orBranch test), ps =>
    match body ps with
    | some (nodes, tag, ps) =>
      (branchRest body fuel tag ps).map fun r => ([.branch test nodes r.1], r.2)
    | none => none
  | _ + 1, _, _ => none

/-- The rest of a loop behind the tag that ends its body. -/
def loopRest (body : List Piece → Option Body) :
    Option Tag → List Piece → Option (List Node × List Piece)
  | some .endLoop, ps => some ([], ps)
  | some .otherwise, ps =>
    match body ps with
    | some (nodes, some .endLoop, ps) => some (nodes, ps)
    | _ => none
  | _, _ => none

/-- The nodes of some pieces. -/
def bodyOf : Nat → List Piece → Option Body
  | 0, _ => none
  | _ + 1, [] => some ([], none, [])
  | fuel + 1, p :: ps =>
    let goOn (node : Node) (ps : List Piece) : Option Body :=
      (bodyOf fuel ps).map fun r => (node :: r.1, r.2)
    match p with
    | .text s => goOn (.text s) ps
    | .output words =>
      match takeAll expression words with
      | some e => goOn (.output e) ps
      | none => none
    | .steer words =>
      match Tag.read words with
      | none => none
      | some (.branch test) =>
        match bodyOf fuel ps with
        | none => none
        | some (nodes, tag, ps) =>
          match branchRest (bodyOf fuel) fuel tag ps with
          | some (otherwise, ps) => goOn (.branch test nodes otherwise) ps
          | none => none
      | some (.loop target source) =>
        match bodyOf fuel ps with
        | none => none
        | some (nodes, tag, ps) =>
          match loopRest (bodyOf fuel) tag ps with
          | some (otherwise, ps) => goOn (.loop target source nodes otherwise) ps
          | none => none
      | some (.define name parameters) =>
        match bodyOf fuel ps with
        | some (nodes, some .endDefine, ps) => goOn (.define name parameters nodes) ps
        | _ => none
      | some tag => some ([], some tag, ps)

/-- The nodes of a template. -/
def Node.read (source : String) : Option (List Node) :=
  match piecesOf source with
  | none => none
  | some ps =>
    match bodyOf (ps.length + 1) ps with
    | some (nodes, none, []) => some nodes
    | _ => none

end Acceptance.Template
