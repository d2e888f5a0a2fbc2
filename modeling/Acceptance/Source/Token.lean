import Acceptance.Source.Number
import Acceptance.Text.Compose
import Acceptance.Text.Identifier
import Acceptance.Text.Blank

/-!
# Words of a source text

A source text is a list of words: names, reserved words, numbers, text literals, marks, and the
ends and indents of lines.  Comments and blanks part words and are dropped, and so are line ends
inside brackets.  Tabs must not decide how deep a line is indented.

    tokens text = some ts        the words of a text; none where a character fits nowhere
-/

namespace Acceptance.Source

open Acceptance.Text

/-! ## Tokens -/

/-- A text literal: its marks in front of the quote, and its body as written. -/
structure TextLiteral where
  raw : Bool
  bytes : Bool
  formatted : Bool
  marked : Bool
  body : List Char
  deriving Repr, DecidableEq

inductive Token where
  | name (s : String)
  | reserved (s : String)
  | number (n : Number)
  | text (t : TextLiteral)
  | op (s : String)
  | newline
  | indent
  | dedent
  deriving Repr, DecidableEq

/-! ## Numbers -/

/-- A number in front of the text behind it. -/
abbrev Scanned (α : Type) := Option (α × List Char)

/-- The digits at the start of a text, an underscore between two of them left out. -/
def digitRun (p : Char → Bool) : List Char → Scanned (List Char)
  | '_' :: c :: rest => if p c then (digitRun p rest).map fun r => (c :: r.1, r.2) else none
  | ['_'] => none
  | c :: rest =>
    if p c then (digitRun p rest).map fun r => (c :: r.1, r.2) else some ([], c :: rest)
  | [] => some ([], [])

def isNamePart (c : Char) : Bool := c.isAlphanum || c == '_' || c.toNat ≥ 128

def isNameStart (c : Char) : Bool := c.isAlpha || c == '_' || c.toNat ≥ 128

/-- The words that may follow a number without a blank. -/
def followers : List String := ["and", "else", "for", "if", "in", "is", "or"]

/-- Whether a number may end in front of a text. -/
def endsNumber (cs : List Char) : Bool :=
  match cs with
  | [] => true
  | c :: _ => !isNamePart c || followers.any fun w => w.toList.isPrefixOf cs

/-- A number in a base behind its mark. -/
def basedNumber (base : Nat) (p : Char → Bool) (cs : List Char) : Scanned Number :=
  match digitRun p cs with
  | some (d :: ds, rest) =>
    if endsNumber rest then
      some (.integer ((d :: ds).foldl (fun n c => n * base + hexDigitValue c) 0), rest)
    else none
  | _ => none

/-- The exponent at the start of a text: zero where there is none. -/
def exponentPart (cs : List Char) : Option (Option Int × List Char) :=
  match cs with
  | [] => some (none, [])
  | e :: rest =>
    if e = 'e' ∨ e = 'E' then
      let (signed, negative, digits) := match rest with
        | '+' :: r => (true, false, r)
        | '-' :: r => (true, true, r)
        | r => (false, false, r)
      match digits with
      | d :: _ =>
        if d.isDigit then
          (digitRun Char.isDigit digits).map fun (ds, behind) =>
            (some (if negative then -(Decimal.value ds : Int)
              else (Decimal.value ds : Int)), behind)
        else if signed then none
        else if endsNumber cs then some (none, cs) else none
      | [] => if signed then none else if endsNumber cs then some (none, cs) else none
    else some (none, cs)

/-- The most digits that an integer may have in decimal. -/
def longestInteger : Nat := 4300

/-- A decimal number behind its whole part. -/
def decimalTail (whole : List Char) (cs : List Char) : Scanned Number :=
  let fraction : Scanned (Option (List Char)) := match cs with
    | '.' :: c :: rest =>
      if c.isDigit then
        (digitRun Char.isDigit (c :: rest)).map fun (ds, behind) => (some ds, behind)
      else some (some [], c :: rest)
    | ['.'] => some (some [], [])
    | rest => some (none, rest)
  match fraction with
  | none => none
  | some (fraction, rest) =>
    match exponentPart rest with
    | none => none
    | some (exponent, rest) =>
      let ds := fraction.getD []
      let f : Fraction := ⟨Decimal.value (whole ++ ds), exponent.getD 0 - ds.length⟩
      match rest with
      | 'j' :: behind | 'J' :: behind =>
        if endsNumber behind then some (.imaginary f, behind) else none
      | _ =>
        if !endsNumber rest then none
        else if fraction.isSome || exponent.isSome then some (.real f, rest)
        else if whole.head? = some '0' && whole.any (· != '0') then none
        else if whole.length > longestInteger then none
        else some (.integer (Decimal.value whole), rest)

/-- A number at the start of a text. -/
def scanNumber (cs : List Char) : Scanned Number :=
  match cs with
  | '0' :: 'x' :: rest | '0' :: 'X' :: rest => basedNumber 16 (fun c => c.isDigit ||
      ('a' ≤ c && c ≤ 'f') || ('A' ≤ c && c ≤ 'F')) rest
  | '0' :: 'o' :: rest | '0' :: 'O' :: rest => basedNumber 8 (fun c => '0' ≤ c && c ≤ '7') rest
  | '0' :: 'b' :: rest | '0' :: 'B' :: rest => basedNumber 2 (fun c => c == '0' || c == '1') rest
  | _ =>
    match digitRun Char.isDigit cs with
    | some (whole, rest) => decimalTail whole rest
    | none => none

/-! ## Names and literals -/

/-- A name at the start of a text. -/
def scanName (cs : List Char) : Scanned Token :=
  let word := cs.takeWhile isNamePart
  let rest := cs.dropWhile isNamePart
  if isReserved (.ofList word) then some (.reserved (.ofList word), rest)
  else if word.all (fun c => c.toNat < 128) || isIdentifierList word then
    some (.name (normalForm (.ofList word)), rest)
  else none

/-- The body of a literal up to `quote`, and the text behind it. -/
def shortBody (quote : Char) : List Char → Scanned (List Char)
  | [] => none
  | '\\' :: c :: rest => (shortBody quote rest).map fun r => ('\\' :: c :: r.1, r.2)
  | c :: rest =>
    if c = quote then some ([], rest)
    else if c = '\n' then none
    else (shortBody quote rest).map fun r => (c :: r.1, r.2)

/-- The body of a literal up to three times `quote`, and the text behind it. -/
def longBody (quote : Char) : List Char → Scanned (List Char)
  | [] => none
  | '\\' :: c :: rest => (longBody quote rest).map fun r => ('\\' :: c :: r.1, r.2)
  | c :: rest =>
    if c = quote && rest.take 2 == [quote, quote] then some ([], rest.drop 2)
    else (longBody quote rest).map fun r => (c :: r.1, r.2)

/-- The marks that may stand in front of a quote. -/
def literalMarks : List (String × Bool × Bool × Bool) := [
  ("", false, false, false), ("u", false, false, false), ("r", true, false, false),
  ("b", false, true, false), ("f", false, false, true), ("br", true, true, false),
  ("rb", true, true, false), ("fr", true, false, true), ("rf", true, false, true)]

/-- The mark and the quote at the start of a text. -/
def literalStart? (cs : List Char) : Option ((Bool × Bool × Bool) × Bool × Char × List Char) :=
  literalMarks.findSome? fun (mark, flags) =>
    let n := mark.length
    match cs.drop n with
    | q :: rest =>
      if (q = '"' ∨ q = '\x27') ∧ (cs.take n).map Char.toLower = mark.toList then
        some (flags, cs.take n == ['u'], q, rest)
      else none
    | [] => none

/-- A text literal at the start of a text, its mark and quote taken off. -/
def scanLiteral (flags : Bool × Bool × Bool) (marked : Bool) (q : Char) (rest : List Char) :
    Scanned Token :=
  let body := if rest.take 2 == [q, q] then longBody q (rest.drop 2) else shortBody q rest
  body.map fun (body, behind) => (.text ⟨flags.1, flags.2.1, flags.2.2, marked, body⟩, behind)

/-! ## Marks -/

/-- The marks, longer ones first. -/
def marks : List String := [
  "**=", "//=", ">>=", "<<=", "...", "!=", "%=", "&=", "**", "*=", "+=", "-=", "->", "//", "/=",
  ":=", "<<", "<=", "==", ">=", ">>", "@=", "^=", "|=", "%", "&", "(", ")", "*", "+", ",", "-", ".",
  "/", ":", ";", "<", "=", ">", "@", "[", "]", "^", "\x7b", "|", "\x7d", "~"]

def scanMark (cs : List Char) : Scanned String :=
  (marks.find? fun m => m.toList.isPrefixOf cs).map fun m => (m, cs.drop m.length)

/-- The bracket that closes one. -/
def closing? (m : String) : Option String :=
  if m = "(" then some ")"
  else if m = "[" then some "]"
  else if m = "\x7b" then some "\x7d"
  else none

def isClosing (m : String) : Bool := m == ")" || m == "]" || m == "\x7d"

/-! ## Lines -/

/-- How deep a line is indented, a tab reaching to the next multiple of eight, and how deep it
would be if a tab were one blank wide. -/
structure Depth where
  wide : Nat
  narrow : Nat
  deriving Repr, DecidableEq

/-- What is known between two words: the open brackets, and the indents of the open blocks. -/
structure Lexing where
  brackets : List String
  blocks : List Depth
  lineStart : Bool
  deriving Repr

/-- The indent at the start of a line, and the text behind it.  A line that goes on after a
backslash keeps the indent it had there. -/
def measureIndent (fixed : Option Depth) (d : Depth) : List Char → Option (Depth × List Char)
  | ' ' :: rest => measureIndent fixed ⟨d.wide + 1, d.narrow + 1⟩ rest
  | '\t' :: rest => measureIndent fixed ⟨(d.wide / 8 + 1) * 8, d.narrow + 1⟩ rest
  | '\x0c' :: rest => measureIndent fixed ⟨0, 0⟩ rest
  | '\\' :: '\n' :: c :: rest =>
    let held := match fixed with
      | some f => if f.wide = 0 then d else f
      | none => d
    measureIndent (some held) d (c :: rest)
  | '\\' :: _ => none
  | rest =>
    match fixed with
    | some f => if f.wide = 0 then some (d, rest) else some (⟨f.wide, f.wide⟩, rest)
    | none => some (d, rest)

/-- Closes the blocks that are deeper than a line. -/
def closeBlocks (d : Depth) : List Depth → Option (List Token × List Depth)
  | [] => none
  | b :: blocks =>
    if d.wide < b.wide then (closeBlocks d blocks).map fun r => (.dedent :: r.1, r.2)
    else if d = b then some ([], b :: blocks)
    else none

/-- The blocks that a line opens or closes. -/
def enterLine (d : Depth) (blocks : List Depth) : Option (List Token × List Depth) :=
  match blocks with
  | [] => none
  | b :: rest =>
    if d.wide > b.wide then
      if d.narrow > b.narrow ∧ rest.length < 99 then some ([.indent], d :: blocks) else none
    else closeBlocks d blocks

def isSpace (c : Char) : Bool := c == ' ' || c == '\t' || c == '\x0c'

/-- One word, or what parts words: the words to add, the state behind, and the text behind. -/
def scanWord (s : Lexing) (cs : List Char) : Option (List Token × Lexing × List Char) :=
  match cs with
  | [] => none
  | '\n' :: rest =>
    if s.brackets.isEmpty then some ([.newline], { s with lineStart := true }, rest)
    else some ([], s, rest)
  | '#' :: rest => some ([], s, rest.dropWhile (· != '\n'))
  | '\\' :: '\n' :: c :: rest => some ([], s, c :: rest)
  | c :: rest =>
    if isSpace c then some ([], s, rest)
    else
      match literalStart? cs with
      | some (flags, marked, q, behind) =>
        (scanLiteral flags marked q behind).map fun (t, behind) => ([t], s, behind)
      | none =>
        if isNameStart c then (scanName cs).map fun (t, behind) => ([t], s, behind)
        else if c.isDigit || (c == '.' && (rest.head?.map Char.isDigit).getD false) then
          (scanNumber cs).map fun (n, behind) => ([.number n], s, behind)
        else
          match scanMark cs with
          | none => none
          | some (m, behind) =>
            match closing? m with
            | some close =>
              if s.brackets.length < 200 then
                some ([.op m], { s with brackets := close :: s.brackets }, behind)
              else none
            | none =>
              if isClosing m then
                match s.brackets with
                | close :: brackets =>
                  if close = m then some ([.op m], { s with brackets }, behind) else none
                | [] => none
              else some ([.op m], s, behind)

/-- What stands at the start of a line: a blank line is dropped, any other one enters a block. -/
def scanLineStart (s : Lexing) (cs : List Char) : Option (List Token × Lexing × List Char) :=
  match measureIndent none ⟨0, 0⟩ cs with
  | none => none
  | some (d, rest) =>
    match rest with
    | '\n' :: behind => some ([], s, behind)
    | '#' :: behind => some ([], s, (behind.dropWhile (· != '\n')).drop 1)
    | _ =>
      (enterLine d s.blocks).map fun (ts, blocks) =>
        (ts, { s with blocks, lineStart := false }, rest)

/-- The words of a text. -/
def scanAll : Nat → Lexing → List Char → Option (List Token)
  | 0, _, _ => none
  | fuel + 1, s, cs =>
    match cs with
    | [] =>
      if s.brackets.isEmpty then some (List.replicate (s.blocks.length - 1) .dedent) else none
    | _ =>
      match if s.lineStart then scanLineStart s cs else scanWord s cs with
      | none => none
      | some (ts, s, rest) => (scanAll fuel s rest).map (ts ++ ·)

/-- A source text with a line end behind its last line. -/
def closeLastLine (cs : List Char) : List Char :=
  if cs.getLast? = some '\n' ∨ cs = [] then cs else cs ++ ['\n']

/-- The words of a source text. -/
def tokens (text : String) : Option (List Token) :=
  let cs := closeLastLine (unifyLineEnds text.toList)
  scanAll (2 * cs.length + 2) ⟨[], [⟨0, 0⟩], true⟩ cs

end Acceptance.Source
