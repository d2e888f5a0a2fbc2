import Acceptance.Json.Reader
import Acceptance.Text.Identifier
import Acceptance.Text.Quoted

/-!
# Text literals

What the body of a text or byte literal denotes.  A backslash opens an escape, except in a raw
literal; one that opens none stands for itself.  Characters cannot be written by their names.

    decodeText body = some s          the text that a body denotes
    readQuoted cs = some (s, rest)    a literal in single or double quotes at the start of a text
-/

namespace Acceptance.Source

open Acceptance.Text

/-! ## Escapes -/

def isOctal (c : Char) : Bool := '0' ≤ c && c ≤ '7'

/-- Up to `n` octal digits at the start of a text. -/
def octalDigits (n : Nat) (cs : List Char) : List Char := (cs.take n).takeWhile isOctal

def octalValue (cs : List Char) : Nat := cs.foldl (fun n c => n * 8 + (c.toNat - '0'.toNat)) 0

/-- The number that `n` hexadecimal digits at the start of a text write. -/
def hexPrefix? (n : Nat) (cs : List Char) : Option Nat :=
  if (cs.take n).length = n && (cs.take n).all Json.isHexDigit then
    some ((cs.take n).foldl (fun n c => n * 16 + hexDigitValue c) 0)
  else none

/-- What the one-letter escapes stand for. -/
def simpleEscape? : Char → Option Char
  | '\\' => some '\\'
  | '\x27' => some '\x27'
  | '"' => some '"'
  | 'a' => some '\x07'
  | 'b' => some '\x08'
  | 'f' => some '\x0c'
  | 'n' => some '\n'
  | 'r' => some '\r'
  | 't' => some '\t'
  | 'v' => some '\x0b'
  | _ => none

/-- The number of hexadecimal digits behind an escape letter. -/
def hexWidth? (bytes : Bool) : Char → Option Nat
  | 'x' => some 2
  | 'u' => if bytes then none else some 4
  | 'U' => if bytes then none else some 8
  | _ => none

/-- What the escape behind a backslash stands for, and the number of characters it takes.  A
backslash with nothing behind it stands for itself. -/
def escape? (bytes : Bool) (cs : List Char) : Option (List Char × Nat) :=
  match cs with
  | [] => some (['\\'], 0)
  | '\n' :: _ => some ([], 1)
  | c :: rest =>
    match simpleEscape? c with
    | some d => some ([d], 1)
    | none =>
      if isOctal c then
        let ds := octalDigits 3 cs
        let n := octalValue ds
        some ([Char.ofNat (if bytes then n % 256 else n)], ds.length)
      else
        match hexWidth? bytes c with
        | some width =>
          match hexPrefix? width rest with
          | some n => if n < 0x110000 then some ([Char.ofNat n], width + 1) else none
          | none => none
        | none => if c = 'N' && !bytes then none else some (['\\', c], 1)

/-- The characters that a body with escapes denotes. -/
def decodeEscapes (bytes : Bool) : Nat → List Char → Option (List Char)
  | 0, _ => none
  | _ + 1, [] => some []
  | fuel + 1, '\\' :: rest =>
    match escape? bytes rest with
    | some (ds, n) => (decodeEscapes bytes fuel (rest.drop n)).map (ds ++ ·)
    | none => none
  | fuel + 1, c :: rest => (decodeEscapes bytes fuel rest).map (c :: ·)

/-- The text that a body denotes. -/
def decodeText (raw : Bool) (body : List Char) : Option String :=
  if raw then some (.ofList body) else (decodeEscapes false (body.length + 1) body).map .ofList

/-- The bytes that a body denotes, each as a character; they are written in ASCII. -/
def decodeBytes (raw : Bool) (body : List Char) : Option String :=
  if body.all fun c => c.toNat < 128 then
    if raw then some (.ofList body) else (decodeEscapes true (body.length + 1) body).map .ofList
  else none

/-- A byte of a byte literal. -/
def escapeByte (delimiter : Char) (c : Char) : List Char :=
  if c = delimiter ∨ c = '\\' then ['\\', c]
  else if c = '\t' then ['\\', 't']
  else if c = '\n' then ['\\', 'n']
  else if c = '\r' then ['\\', 'r']
  else if c.toNat < 0x20 ∨ c.toNat ≥ 0x7F then '\\' :: 'x' :: hexDigits 2 c.toNat
  else [c]

/-- Bytes as a literal. -/
def bytesLiteral (s : String) : String :=
  let d := delimiter s.toList
  "b" ++ .ofList (d :: (s.toList.flatMap (escapeByte d) ++ [d]))

/-! ## Literals in place -/

/-- The body of a literal up to its closing quote, and the text behind it; lines may end in it. -/
def closedBody (quote : Char) : List Char → Option (List Char × List Char)
  | [] => none
  | '\\' :: c :: rest => (closedBody quote rest).map fun r => ('\\' :: c :: r.1, r.2)
  | c :: rest =>
    if c = quote then some ([], rest)
    else (closedBody quote rest).map fun r => (c :: r.1, r.2)

/-- A literal in one quote on one line at the start of a text: what it denotes, and the text behind
it. -/
def readQuoted : List Char → Option (String × List Char)
  | [] => none
  | q :: rest =>
    if q = '"' ∨ q = '\x27' then
      match closedBody q rest with
      | some (body, behind) =>
        if body.contains '\n' then none else (decodeText false body).map fun s => (s, behind)
      | none => none
    else none

end Acceptance.Source
