import Acceptance.Source.Literal
import Acceptance.Text.Blank

/-!
# Pieces of a template

A template is text with tags in it: `\x7b\x7b … \x7d\x7d` prints a value, `\x7b% … %\x7d` steers,
and `\x7b# … #\x7d` is a remark.  The line feed behind a steering tag or a remark is dropped, and so
are the blanks in front of one that starts its line.  A hyphen at the edge of a tag drops all
blanks on that side; a plus keeps those in front.

    piecesOf source = some ps        the texts and the tags of a template, the tags as words
-/

namespace Acceptance.Template

open Acceptance.Text

/-! ## Words inside tags -/

inductive Word where
  | name (s : String)
  | text (s : String)
  | integer (n : Nat)
  | mark (s : String)
  deriving Repr, DecidableEq

inductive Piece where
  | text (s : String)
  | output (words : List Word)
  | steer (words : List Word)
  deriving Repr, DecidableEq

inductive TagKind where
  | output
  | steer
  | remark
  deriving Repr, DecidableEq

/-- The marks inside tags, longer ones first. -/
def marks : List String := [
  "==", "!=", ">=", "<=", "//", "**", "+", "-", "/", "*", "%", "~", "[", "]", "(", ")", "\x7b",
  "\x7d", ">", "<", "=", ".", ":", "|", ",", ";"]

/-- The mark that ends a tag, and whether a line feed behind it is dropped. -/
def TagKind.closing : TagKind → List Char × Bool
  | .output => (['\x7d', '\x7d'], false)
  | .steer => (['%', '\x7d'], true)
  | .remark => (['#', '\x7d'], true)

/-- The text behind the end of a tag that stands at the start of a text. -/
def tagEnd? (k : TagKind) (cs : List Char) : Option (List Char) :=
  let (close, drops) := k.closing
  let behind (cs : List Char) : Option (List Char) :=
    if close.isPrefixOf cs then some (cs.drop close.length) else none
  match cs with
  | '-' :: rest =>
    match behind rest with
    | some r => some (r.dropWhile isBlank)
    | none => none
  | '+' :: rest => if drops then behind rest else none
  | _ =>
    match behind cs with
    | some ('\n' :: r) => if drops then some r else some ('\n' :: r)
    | r => r

/-- A word at the start of a text, and the text behind it. -/
def scanWord (cs : List Char) : Option (Word × List Char) :=
  match cs with
  | [] => none
  | c :: rest =>
    if c = '"' ∨ c = '\x27' then
      match Source.closedBody c rest with
      | some (body, behind) => (Source.decodeText false body).map fun s => (.text s, behind)
      | none => none
    else if c.isDigit then
      let ds := cs.takeWhile Char.isDigit
      let behind := cs.dropWhile Char.isDigit
      if c = '0' && ds.any (· != '0') then none else some (.integer (Decimal.value ds), behind)
    else if isWordChar c then
      let word := cs.takeWhile isWordChar
      if isIdentifierList word then some (.name (.ofList word), cs.dropWhile isWordChar) else none
    else (marks.find? fun m => m.toList.isPrefixOf cs).map fun m => (.mark m, cs.drop m.length)

/-- The open brackets behind a word. -/
def bracketsBehind (open_ : List String) : Word → Option (List String)
  | .mark "(" => some (")" :: open_)
  | .mark "[" => some ("]" :: open_)
  | .mark "\x7b" => some ("\x7d" :: open_)
  | .mark m =>
    if m = ")" ∨ m = "]" ∨ m = "\x7d" then
      match open_ with
      | close :: outer => if close = m then some outer else none
      | [] => none
    else some open_
  | _ => some open_

/-- The words of a tag up to its end, and the text behind it. -/
def tagWords (k : TagKind) : Nat → List String → List Char → Option (List Word × List Char)
  | 0, _, _ => none
  | fuel + 1, open_, cs =>
    match (if open_.isEmpty then tagEnd? k cs else none) with
    | some behind => some ([], behind)
    | none =>
      match cs with
      | [] => none
      | c :: rest =>
        if isBlank c then tagWords k fuel open_ rest
        else
          match scanWord cs with
          | none => none
          | some (w, behind) =>
            match bracketsBehind open_ w with
            | none => none
            | some open_ => (tagWords k fuel open_ behind).map fun r => (w :: r.1, r.2)

/-- The text behind a remark. -/
def behindRemark : List Char → Option (List Char)
  | [] => none
  | c :: rest =>
    match tagEnd? .remark (c :: rest) with
    | some behind => some behind
    | none => behindRemark rest

/-! ## Text between tags -/

/-- The text in front of the first tag, and the tag with what stands behind its opening mark. -/
def splitTag : List Char → List Char × Option (TagKind × List Char)
  | '\x7b' :: '\x7b' :: rest => ([], some (.output, rest))
  | '\x7b' :: '%' :: rest => ([], some (.steer, rest))
  | '\x7b' :: '#' :: rest => ([], some (.remark, rest))
  | [] => ([], none)
  | c :: rest =>
    let r := splitTag rest
    (c :: r.1, r.2)

/-- The text in front of a tag that starts its line, without the blanks of that line. -/
def dropIndent (lineStart : Bool) (text : List Char) : List Char :=
  let lastLine := (text.reverse.takeWhile (· != '\n')).reverse
  let front := text.take (text.length - lastLine.length)
  if (lineStart || !front.isEmpty) && lastLine.all isBlank then front else text

/-- The text in front of a tag, as its edge leaves it. -/
def textBefore (k : TagKind) (lineStart : Bool) (text inside : List Char) : List Char × List Char :=
  match inside with
  | '-' :: inside => (dropEndWhile isBlank text, inside)
  | '+' :: inside => (text, inside)
  | _ => (if k = .output then text else dropIndent lineStart text, inside)

/-- Whether the part of a text in front of its rest ends a line. -/
def endsLine (cs rest : List Char) : Bool :=
  (cs.take (cs.length - rest.length)).getLast? == some '\n'

def textPiece (cs : List Char) : List Piece := if cs.isEmpty then [] else [.text (.ofList cs)]

/-- The pieces of a text; `lineStart` says that it starts a line. -/
def piecesFrom : Nat → Bool → List Char → Option (List Piece)
  | 0, _, _ => none
  | fuel + 1, lineStart, cs =>
    match splitTag cs with
    | (text, none) => some (textPiece text)
    | (text, some (k, inside)) =>
      let (text, inside) := textBefore k lineStart text inside
      let goOn (ps : List Piece) (rest : List Char) :=
        (piecesFrom fuel (endsLine cs rest) rest).map fun r => textPiece text ++ ps ++ r
      match k with
      | .remark =>
        match behindRemark inside with
        | some rest => goOn [] rest
        | none => none
      | .output =>
        match tagWords .output (inside.length + 1) [] inside with
        | some (ws, rest) => goOn [.output ws] rest
        | none => none
      | .steer =>
        match tagWords .steer (inside.length + 1) [] inside with
        | some (ws, rest) => goOn [.steer ws] rest
        | none => none

/-- The pieces of a template. -/
def piecesOf (source : String) : Option (List Piece) :=
  let cs := unifyLineEnds source.toList
  piecesFrom (cs.length + 1) true cs

end Acceptance.Template
