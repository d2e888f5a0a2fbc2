import Acceptance.Source.Expression

/-!
# Reading case patterns

The grammar of the patterns of a match.  Patterns are checked and not kept, since no step is
defined in one.

    CasePattern.patterns r n        the patterns of a case, nested less than n deep
-/

namespace Acceptance.Source.CasePattern

open Acceptance.Text Scan Source.Parser

/-! ## Literals -/

/-- A number, real or imaginary as asked for. -/
def number (imaginary : Bool) : Parser Unit := do
  match ← next with
  | .number (.imaginary _) => ensure imaginary
  | .number _ => ensure !imaginary
  | _ => failure

/-- A number with its sign, or the sum of a real and an imaginary one. -/
def signedNumber : Parser Unit := do
  discard (tryMark "-")
  let real ← option (number false)
  if real.isNone then number true
  else if ← sees [.op "+", .op "-"] then
    discard next
    number true
  else pure ()

/-- A literal that a value is compared with. -/
def literal (r : Inner) : Parser Unit := do
  match ← peek with
  | some (.text _) => discard r.literals
  | some (.number _) => signedNumber
  | some (.op "-") => signedNumber
  | some (.reserved s) => do
    ensure (s == "None" || s == "True" || s == "False")
    discard next
  | _ => failure

/-- Names with points between them; the number of points. -/
def dotted : Parser Nat := do
  discard name
  return (← many (mark "." *> name)).length

/-- A name that a value is bound to. -/
def capture : Parser Unit := do
  ensure ((← name) != "_")
  ensure !(← sees [.op ".", .op "(", .op "="])

/-! ## Patterns -/

/-- A pattern, or a name behind a star; whether it is one with a star. -/
def starred (pattern : Parser Unit) : Parser Bool := do
  if ← tryMark "*" then
    discard name
    pure true
  else
    pattern
    pure false

/-- What stands behind the mark of a group or a sequence in round brackets. -/
def round (pattern : Parser Unit) : Parser Unit := do
  if ← tryMark ")" then pure ()
  else
    let (items, trailing) ← commaList (starred pattern)
    mark ")"
    ensure (items != [true] || trailing)

def square (pattern : Parser Unit) : Parser Unit := do
  if ← tryMark "]" then pure ()
  else
    discard (commaList (starred pattern))
    mark "]"

/-- An entry of a mapping; whether it is the one that takes all further keys. -/
def entry (r : Inner) (pattern : Parser Unit) : Parser Bool := do
  if ← tryMark "**" then
    capture
    pure true
  else
    match ← peek with
    | some (.name _) => do ensure ((← dotted) > 0)
    | _ => literal r
    mark ":"
    pattern
    pure false

def braced (r : Inner) (pattern : Parser Unit) : Parser Unit := do
  if ← tryMark "\x7d" then pure ()
  else
    let (items, _) ← commaList (entry r pattern)
    mark "\x7d"
    ensure !(items.dropLast.contains true)

/-- A pattern inside a class pattern; whether it has a name. -/
def field (pattern : Parser Unit) : Parser Bool := do
  if ← seesNameBefore "=" then
    discard name
    mark "="
    pattern
    pure true
  else
    pattern
    pure false

/-- The patterns of a class pattern; those with a name come last. -/
def fields (pattern : Parser Unit) : Parser Unit := do
  if ← tryMark ")" then pure ()
  else
    let (items, _) ← commaList (field pattern)
    mark ")"
    ensure !((items.dropWhile (!·)).contains false)

/-- A pattern in one piece. -/
def closed (r : Inner) (pattern : Parser Unit) : Parser Unit := do
  match ← peek with
  | some (.name _) => do
    discard dotted
    if ← tryMark "(" then fields pattern else ensure !(← sees [.op "="])
  | some (.op "(") => discard next *> round pattern
  | some (.op "[") => discard next *> square pattern
  | some (.op "\x7b") => discard next *> braced r pattern
  | _ => literal r

/-- Patterns with bars between them, and the name that the value is bound to. -/
def whole (r : Inner) (pattern : Parser Unit) : Parser Unit := do
  closed r pattern
  discard (many (mark "|" *> closed r pattern))
  if ← tryWord "as" then capture else pure ()

/-- A pattern that is nested less than `n` deep. -/
def atDepth (r : Inner) : Nat → Parser Unit
  | 0 => failure
  | n + 1 => whole r (atDepth r n)

/-- The patterns of a case. -/
def patterns (r : Inner) (n : Nat) : Parser Unit := do
  let (items, trailing) ← commaList (starred (atDepth r n))
  ensure (items != [true] || trailing)

end Acceptance.Source.CasePattern
