import Acceptance.Source.Formatted
import Acceptance.Source.Parser
import Acceptance.Source.Syntax

/-!
# Reading expressions

The grammar of expressions.  A rule that comes back to an expression inside brackets, or behind an
operator, takes it from `Inner`; so the rules are plain functions, and `Inner.atDepth` ties the
knot as deep as there are words.

    (Inner.atDepth n).test       an expression, nested less than n deep
    Expr.isTarget e              whether a value may be bound to e
-/

namespace Acceptance.Source

open Acceptance.Text Scan Source.Parser

/-- The expressions that a rule may hold at a lower depth: any one; one without a condition; an
operand of comparisons; one with its signs; and one with its calls and indexes. -/
structure Inner where
  test : Parser Expr
  disjunction : Parser Expr
  operand : Parser Expr
  factor : Parser Expr
  primary : Parser Expr

/-! ## Targets -/

mutual

/-- Whether a value may be bound to an expression. -/
def Expr.isTarget : Expr → Bool
  | .name _ => true
  | .attribute _ _ => true
  | .subscript _ _ => true
  | .starred e => e.isTarget
  | .tuple es => areTargets es
  | .list es => areTargets es
  | _ => false

def areTargets : List Expr → Bool
  | [] => true
  | e :: es => e.isTarget && areTargets es

end

mutual

/-- Whether an expression may be deleted. -/
def Expr.isDeletable : Expr → Bool
  | .name _ => true
  | .attribute _ _ => true
  | .subscript _ _ => true
  | .tuple es => areDeletable es
  | .list es => areDeletable es
  | _ => false

def areDeletable : List Expr → Bool
  | [] => true
  | e :: es => e.isDeletable && areDeletable es

end

/-- Whether an expression is a place for one value. -/
def Expr.isPlace : Expr → Bool
  | .name _ => true
  | .attribute _ _ => true
  | .subscript _ _ => true
  | _ => false

def Expr.isStarred : Expr → Bool
  | .starred _ => true
  | _ => false

/-! ## Parameters -/

/-- A place in a list of parameters. -/
inductive Slot where
  | plain (p : Parameter)
  | slash
  | star (p : Option Parameter)
  | named (p : Parameter)

def Slot.plain? : Slot → Option Parameter
  | .plain p => some p
  | _ => none

/-- Whether no parameter without a default follows one with a default. -/
def defaultsLast : List Parameter → Bool
  | [] => true
  | p :: ps => if p.default.isSome then ps.all (·.default.isSome) else defaultsLast ps

/-- The parameters that are taken by name, behind a star. -/
def byName : List Slot → Option (List Parameter × Option Parameter)
  | [] => some ([], none)
  | [.named p] => some ([], some p)
  | .plain p :: slots => (byName slots).map fun r => (p :: r.1, r.2)
  | _ => none

/-- The parameters behind the positional ones.  A lone star has a parameter behind it. -/
def behindPositions : List Slot → Option (Option Parameter × List Parameter × Option Parameter)
  | .star (some p) :: slots => (byName slots).map fun r => (some p, r)
  | .star none :: .plain p :: slots => (byName (.plain p :: slots)).map fun r => (none, r)
  | .star none :: _ => none
  | slots =>
    match byName slots with
    | some ([], named) => some (none, [], named)
    | _ => none

/-- Parameters from their places. -/
def Parameters.ofSlots? (slots : List Slot) : Option Parameters :=
  let first := slots.takeWhile fun s => s.plain?.isSome
  let rest := slots.dropWhile fun s => s.plain?.isSome
  let plain := first.filterMap Slot.plain?
  match rest with
  | .slash :: rest =>
    let second := (rest.takeWhile fun s => s.plain?.isSome).filterMap Slot.plain?
    if plain.isEmpty || !defaultsLast (plain ++ second) then none
    else
      (behindPositions (rest.dropWhile fun s => s.plain?.isSome)).map fun (star, nameOnly, named) =>
        .mk plain second star nameOnly named
  | _ =>
    if !defaultsLast plain then none
    else (behindPositions rest).map fun (star, nameOnly, named) => .mk [] plain star nameOnly named

/-! ## Chains of operators -/

/-- One of some marks, with what it stands for. -/
def oneOf {α : Type} (table : List (String × α)) : Parser α := do
  match ← next with
  | .op s => ofOption (table.lookup s)
  | _ => failure

/-- Operands with operators between them, bound from the left. -/
def chain (table : List (String × BinaryOp)) (operand : Parser Expr) : Parser Expr := do
  let first ← operand
  let rest ← many do
    let op ← oneOf table
    return (op, ← operand)
  return rest.foldl (fun left (op, right) => .binary op left right) first

/-- Operands with a word between them, as one. -/
def joined (op : BoolOp) (w : String) (operand : Parser Expr) : Parser Expr := do
  let first ← operand
  match ← many (word w *> operand) with
  | [] => pure first
  | rest => pure (.boolean op (first :: rest))

/-- One expression stands for itself; several, or one with a comma, are a tuple. -/
def tupleOf (es : List Expr × Bool) : Expr :=
  match es with
  | ([e], false) => e
  | (es, _) => .tuple es

/-! ## Text literals -/

/-- Joins the plain texts that stand side by side. -/
def mergeTexts : List Part → List Part
  | [] => []
  | .text s :: ps =>
    match mergeTexts ps with
    | .text t :: rest => .text (s ++ t) :: rest
    | rest => if s.isEmpty then rest else .text s :: rest
  | p :: ps => p :: mergeTexts ps

/-- The expression of a source that stands between braces. -/
def parseValue (test : Parser Expr) (source : List Char) : Option Expr :=
  match tokens (.ofList ('(' :: (source ++ [')']))) with
  | some ts => (test.run ts).map (·.1)
  | none => none

mutual

/-- A piece of a formatted text with its sources read. -/
def partOf (test : Parser Expr) : Piece → Option Part
  | .text s => some (.text s)
  | .value source conversion none =>
    (parseValue test source).map fun e => .value e conversion none
  | .value source conversion (some layout) =>
    match parseValue test source, partsOf test layout with
    | some e, some ps => some (.value e conversion (some (mergeTexts ps)))
    | _, _ => none

def partsOf (test : Parser Expr) : List Piece → Option (List Part)
  | [] => some []
  | p :: ps =>
    match partOf test p, partsOf test ps with
    | some p, some ps => some (p :: ps)
    | _, _ => none

end

/-- The parts of a text literal. -/
def literalParts (test : Parser Expr) (t : TextLiteral) : Option (List Part) :=
  if t.formatted then (pieces t.raw t.body).bind (partsOf test)
  else (decodeText t.raw t.body).map fun s => [.text s]

/-- Text literals side by side are one text.  Bytes stand among bytes only. -/
def joinLiterals (test : Parser Expr) (ts : List TextLiteral) : Option Expr :=
  if ts.any (·.bytes) then
    if ts.all (·.bytes) then
      (ts.mapM fun t => decodeBytes t.raw t.body).map fun ss => .bytes (String.join ss)
    else none
  else if ts.any (·.formatted) then
    (ts.mapM (literalParts test)).map fun ps => .formatted (mergeTexts ps.flatten)
  else
    (ts.mapM fun t => decodeText t.raw t.body).map fun ss =>
      .text (String.join ss) ((ts.head?.map (·.marked)).getD false)

def textLiteral : Parser TextLiteral := do
  match ← next with
  | .text t => pure t
  | _ => failure

namespace Inner

variable (r : Inner)

/-! ## Names and stars -/

/-- An expression, or a name with the value that is bound to it. -/
def named : Parser Expr := do
  if ← seesNameBefore ":=" then
    let target ← name
    mark ":="
    return .assign target (← r.test)
  else r.test

/-- An operand behind a star, or an expression. -/
def starred : Parser Expr := do
  if ← tryMark "*" then Expr.starred <$> r.operand else r.test

/-- An operand behind a star, or an expression that may bind a name. -/
def starredNamed : Parser Expr := do
  if ← tryMark "*" then Expr.starred <$> r.operand else r.named

/-- Expressions with commas between them. -/
def stars : Parser Expr := tupleOf <$> commaList r.starred

/-- A yield and what stands behind it. -/
def yielded : Parser Expr := do
  word "yield"
  if ← tryWord "from" then Expr.yieldFrom <$> r.test else Expr.yield <$> option r.stars

/-- What may stand behind the sign of an assignment. -/
def assigned : Parser Expr := do
  if ← sees [.reserved "yield"] then r.yielded else r.stars

/-! ## Comprehensions -/

/-- What one value is bound to. -/
def target : Parser Expr := do
  let e ← if ← tryMark "*" then Expr.starred <$> r.primary else r.primary
  ensure e.isTarget
  pure e

def targets : Parser Expr := tupleOf <$> commaList r.target

def clause : Parser Clause := do
  let isAsync ← tryWord "async"
  word "for"
  let bound ← r.targets
  word "in"
  let source ← r.disjunction
  let conditions ← many (word "if" *> r.disjunction)
  return .mk isAsync bound source conditions

def seesClause : Parser Bool := sees [.reserved "for", .reserved "async"]

/-- The clauses behind an item, up to a mark. -/
def clausesTo (item : Expr) (close : String) : Parser (List Clause) := do
  ensure !item.isStarred
  let cs ← several r.clause
  mark close
  pure cs

/-! ## Calls -/

/-- A value of a call. -/
inductive Argument where
  | plain (e : Expr)
  | starred (e : Expr)
  | named (n : String) (e : Expr)
  | mapping (e : Expr)

def Argument.isPlain : Argument → Bool
  | .plain _ => true
  | _ => false

def Argument.isStarred : Argument → Bool
  | .starred _ => true
  | _ => false

def argument : Parser Argument := do
  if ← tryMark "*" then Argument.starred <$> r.test
  else if ← tryMark "**" then Argument.mapping <$> r.test
  else if ← seesNameBefore "=" then
    let n ← name
    mark "="
    return .named n (← r.test)
  else Argument.plain <$> r.named

/-- Whether no plain value follows a named one, and no starred one a mapping. -/
def inOrder : List Argument → Bool
  | [] => true
  | .plain _ :: rest => inOrder rest
  | .starred _ :: rest => inOrder rest
  | .named _ _ :: rest => rest.all (!·.isPlain) && inOrder rest
  | .mapping _ :: rest => rest.all (fun a => !a.isPlain && !a.isStarred) && inOrder rest

def positions (as : List Argument) : List Expr :=
  as.filterMap fun
    | .plain e => some e
    | .starred e => some (.starred e)
    | _ => none

def names (as : List Argument) : List Named :=
  as.filterMap fun
    | .named n e => some (.mk (some n) e)
    | .mapping e => some (.mk none e)
    | _ => none

/-- The values of a call up to its closing bracket.  Where `generator` says so, a lone generator
needs no brackets of its own. -/
def arguments (generator : Bool) : Parser (List Expr × List Named) := do
  if ← tryMark ")" then pure ([], [])
  else
    let first ← r.argument
    match first, generator && (← seesClause) with
    | .plain e, true => do
      let cs ← r.clausesTo e ")"
      return ([.generator e cs], [])
    | _, _ => do
      let rest ← many (mark "," *> r.argument)
      discard (tryMark ",")
      mark ")"
      ensure (inOrder (first :: rest))
      return (positions (first :: rest), names (first :: rest))

/-! ## Indexes -/

def bound : Parser (Option Expr) := do
  if ← sees [.op "]", .op ",", .op ":"] then pure none else some <$> r.test

def sliceBehind (lower : Option Expr) : Parser Expr := do
  mark ":"
  let upper ← r.bound
  let step ← if ← tryMark ":" then r.bound else pure none
  return .slice lower upper step

def index : Parser Expr := do
  if ← tryMark "*" then Expr.starred <$> r.test
  else if ← sees [.op ":"] then r.sliceBehind none
  else if ← seesNameBefore ":=" then r.named
  else
    let e ← r.test
    if ← sees [.op ":"] then r.sliceBehind (some e) else pure e

def indexes : Parser Expr := do
  match ← commaList r.index with
  | ([e], false) => if e.isStarred then pure (.tuple [e]) else pure e
  | (es, _) => pure (.tuple es)

/-! ## Brackets -/

/-- An expression behind a round bracket. -/
def round : Parser Expr := do
  if ← tryMark ")" then pure (.tuple [])
  else if ← sees [.reserved "yield"] then
    let e ← r.yielded
    mark ")"
    pure e
  else
    let first ← r.starredNamed
    if ← seesClause then return .generator first (← r.clausesTo first ")")
    else
      let rest ← many (mark "," *> r.starredNamed)
      let trailing ← tryMark ","
      mark ")"
      if rest.isEmpty && !trailing then
        ensure !first.isStarred
        pure first
      else pure (.tuple (first :: rest))

/-- An expression behind a square bracket. -/
def square : Parser Expr := do
  if ← tryMark "]" then pure (.list [])
  else
    let first ← r.starredNamed
    if ← seesClause then return .listOf first (← r.clausesTo first "]")
    else
      let rest ← many (mark "," *> r.starredNamed)
      discard (tryMark ",")
      mark "]"
      return .list (first :: rest)

/-- An entry of a dictionary. -/
def entry : Parser Entry := do
  if ← tryMark "**" then Entry.mk none <$> r.operand
  else
    let key ← r.test
    mark ":"
    return .mk (some key) (← r.test)

/-- The entries of a dictionary behind its first one. -/
def entriesBehind (first : Entry) : Parser Expr := do
  let rest ← many (mark "," *> r.entry)
  discard (tryMark ",")
  mark "\x7d"
  return .dict (first :: rest)

/-- An expression behind a brace. -/
def braced : Parser Expr := do
  if ← tryMark "\x7d" then pure (.dict [])
  else if ← sees [.op "**"] then r.entriesBehind (← r.entry)
  else
    let bindsName ← seesNameBefore ":="
    let first ← r.starredNamed
    if !bindsName && !first.isStarred && (← sees [.op ":"]) then
      mark ":"
      let value ← r.test
      if ← seesClause then return .dictOf first value (← r.clausesTo first "\x7d")
      else r.entriesBehind (.mk (some first) value)
    else if ← seesClause then return .setOf first (← r.clausesTo first "\x7d")
    else
      let rest ← many (mark "," *> r.starredNamed)
      discard (tryMark ",")
      mark "\x7d"
      return .set (first :: rest)

/-! ## Parameters -/

/-- The type note of a parameter.  Behind a star it may have a star as well. -/
def note (star : Bool) : Parser (Option Expr) := do
  if ← tryMark ":" then some <$> (if star then r.starred else r.test) else pure none

/-- A name with its type note; `notes` says whether it may have one. -/
def parameter (notes star : Bool) : Parser Parameter := do
  let n ← name
  let note ← if notes then r.note star else pure none
  return .mk n note none

/-- A parameter with its default. -/
def defaulted (notes : Bool) : Parser Parameter := do
  let p ← r.parameter notes false
  if ← tryMark "=" then return .mk p.name p.note (some (← r.test)) else pure p

def slot (notes : Bool) : Parser Slot := do
  if ← tryMark "/" then pure .slash
  else if ← tryMark "**" then Slot.named <$> r.parameter notes false
  else if ← tryMark "*" then
    if ← sees [.op ","] then pure (.star none)
    else return .star (some (← r.parameter notes true))
  else Slot.plain <$> r.defaulted notes

/-- The parameters up to a mark, which stays. -/
def parameters (notes : Bool) (stop : String) : Parser Parameters := do
  if ← sees [.op stop] then pure (.mk [] [] none [] none)
  else
    let (slots, _) ← commaList (r.slot notes)
    ofOption (Parameters.ofSlots? slots)

/-! ## Operators -/

def literals : Parser Expr := do ofOption (joinLiterals r.test (← several textLiteral))

/-- An expression in one piece. -/
def atom : Parser Expr := do
  match ← peek with
  | some (.text _) => r.literals
  | some t =>
    discard next
    match t with
    | .name s => pure (.name s)
    | .number n => pure (.number n)
    | .reserved s => do
      ensure (s == "True" || s == "False" || s == "None")
      pure (.constant s)
    | .op "..." => pure (.constant "...")
    | .op "(" => r.round
    | .op "[" => r.square
    | .op "\x7b" => r.braced
    | _ => failure
  | none => failure

/-- A step behind an expression: an attribute, a call or an index. -/
def step : Parser (Expr → Expr) := do
  match ← next with
  | .op "." => do
    let n ← name
    pure fun e => .attribute e n
  | .op "(" => do
    let (es, ns) ← r.arguments true
    pure fun e => .call e es ns
  | .op "[" => do
    let i ← r.indexes
    mark "]"
    pure fun e => .subscript e i
  | _ => failure

def stepped : Parser Expr := do
  let e ← r.atom
  return (← many r.step).foldl (fun e f => f e) e

def power : Parser Expr := do
  let base ← if ← tryWord "await" then Expr.await <$> r.stepped else r.stepped
  if ← tryMark "**" then return .binary .pow base (← r.factor) else pure base

def signs : List (String × UnaryOp) := [("+", .plus), ("-", .minus), ("~", .invert)]

def signed : Parser Expr := do
  let ops ← many (oneOf signs)
  return ops.foldr .unary (← r.power)

/-- The levels of the operators of two operands, the tightest one first. -/
def levels : List (List (String × BinaryOp)) := [
  [("*", .mul), ("/", .div), ("//", .floorDiv), ("%", .mod), ("@", .matMul)],
  [("+", .add), ("-", .sub)],
  [("<<", .shiftLeft), (">>", .shiftRight)],
  [("&", .bitAnd)],
  [("^", .bitXor)],
  [("|", .bitOr)]]

/-- An operand of comparisons. -/
def combined : Parser Expr := levels.foldl (fun operand table => chain table operand) r.signed

def comparisonOp : Parser CompareOp := do
  match ← next with
  | .op s => ofOption ([("==", CompareOp.eq), ("!=", .notEq), ("<", .lt), ("<=", .le), (">", .gt),
      (">=", .ge)].lookup s)
  | .reserved "in" => pure .inside
  | .reserved "not" => word "in" *> pure .notInside
  | .reserved "is" => do if ← tryWord "not" then pure .isNot else pure .is
  | _ => failure

def comparison : Parser Expr := do
  let left ← r.combined
  let rest ← many do
    let op ← comparisonOp
    return .mk op (← r.combined)
  if rest.isEmpty then pure left else pure (.compare left rest)

def inversion : Parser Expr := do
  let nots ← many (word "not")
  return nots.foldr (fun _ e => .unary .not e) (← r.comparison)

def alternatives : Parser Expr := joined .or "or" (joined .and "and" r.inversion)

/-! ## Whole expressions -/

def lambda : Parser Expr := do
  word "lambda"
  let ps ← r.parameters false ":"
  mark ":"
  return .lambda ps (← r.test)

def conditional : Parser Expr := do
  let body ← r.alternatives
  let behind ← option do
    word "if"
    let test ← r.alternatives
    word "else"
    return (test, ← r.test)
  match behind with
  | some (test, otherwise) => pure (.conditional test body otherwise)
  | none => pure body

def expression : Parser Expr := do
  if ← sees [.reserved "lambda"] then r.lambda else r.conditional

/-- The rules one level further out. -/
def outer : Inner := ⟨r.expression, r.alternatives, r.combined, r.signed, r.stepped⟩

/-- The expressions that are nested less than `n` deep. -/
def atDepth : Nat → Inner
  | 0 => ⟨failure, failure, failure, failure, failure⟩
  | n + 1 => (atDepth n).outer

end Inner

end Acceptance.Source
