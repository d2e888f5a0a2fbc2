import Acceptance.Source.Token
import Acceptance.Text.Scan

/-!
# Taking words of a source

Parsers for the words that the grammar of a source is made of, and for lists with commas.
-/

namespace Acceptance.Source

open Acceptance.Text Scan

/-- A parser of values of a type. -/
abbrev Parser : Type → Type := Scan Token

namespace Parser

variable {α : Type}

def mark (s : String) : Parser Unit := item (.op s)

def word (s : String) : Parser Unit := item (.reserved s)

def tryMark (s : String) : Parser Bool := tryItem (.op s)

def tryWord (s : String) : Parser Bool := tryItem (.reserved s)

/-- Takes a name. -/
def name : Parser String := do
  match ← next with
  | .name s => pure s
  | _ => failure

/-- Takes a name that means something in its place only. -/
def softWord (s : String) : Parser Unit := item (.name s)

/-- Whether a name comes first with a given mark behind it. -/
def seesNameBefore (m : String) : Parser Bool := do
  match ← get with
  | .name _ :: .op s :: _ => pure (s == m)
  | _ => pure false

/-- Values with commas between them, one at least, and whether a comma stands behind the last. -/
def commaList (p : Parser α) : Parser (List α × Bool) := do
  let a ← p
  let as ← many (mark "," *> p)
  return (a :: as, ← tryMark ",")

/-- Values with commas between them, one at least. -/
def commas (p : Parser α) : Parser (List α) := do
  let a ← p
  return a :: (← many (mark "," *> p))

end Parser

end Acceptance.Source
