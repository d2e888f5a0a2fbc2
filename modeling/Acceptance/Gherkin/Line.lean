import Acceptance.Gherkin.Dialect
import Acceptance.Gherkin.Document
import Acceptance.Text.Blank

/-!
# Lines of a feature file

A line is read as a token of some kind; which kinds are asked for, and in which order, is the
grammar's affair.  Two things carry over from line to line: the dialect, and the mark that closes
an open doc string.

    Line.token? scan kind line = some t        the line is of that kind, and says `t`
-/

namespace Acceptance.Gherkin

open Acceptance.Text

/-! ## Tokens -/

inductive TokenKind where
  | eof
  | empty
  | comment
  | tagLine
  | language
  | featureLine
  | ruleLine
  | backgroundLine
  | scenarioLine
  | examplesLine
  | stepLine
  | docStringSeparator
  | tableRow
  | other
  deriving Repr, DecidableEq

def TokenKind.name : TokenKind → String
  | .eof => "#EOF"
  | .empty => "#Empty"
  | .comment => "#Comment"
  | .tagLine => "#TagLine"
  | .language => "#Language"
  | .featureLine => "#FeatureLine"
  | .ruleLine => "#RuleLine"
  | .backgroundLine => "#BackgroundLine"
  | .scenarioLine => "#ScenarioLine"
  | .examplesLine => "#ExamplesLine"
  | .stepLine => "#StepLine"
  | .docStringSeparator => "#DocStringSeparator"
  | .tableRow => "#TableRow"
  | .other => "#Other"

/-- What a line says. -/
inductive Token where
  | eof
  | empty
  | comment
  | tags (names : List String)
  | language
  | title (language keyword name : String)
  | step (keyword : String) (type : KeywordType) (text : String)
  | docString
  | row (cells : List String)
  | other (text : String)
  deriving Repr, DecidableEq

/-- A line of a file, or the end behind its last line. -/
structure Line where
  number : Nat
  text : Option (List Char)
  deriving Repr

/-! ## Faults -/

/-- What is wrong with a feature file; lines and columns count from one. -/
inductive Fault where
  | unexpectedToken (line column : Nat) (expected : List TokenKind) (found : String)
  | unexpectedEnd (line : Nat) (expected : List TokenKind)
  | blankInTag (line column : Nat)
  | raggedTable (line column : Nat)
  | unknownLanguage (line column : Nat) (name : String)
  deriving Repr, DecidableEq

def Fault.message : Fault → String
  | .unexpectedToken line column expected found =>
    "(" ++ toString line ++ ":" ++ toString column ++ "): expected: " ++
      ", ".intercalate (expected.map TokenKind.name) ++ ", got '" ++ found ++ "'"
  | .unexpectedEnd line expected =>
    "(" ++ toString line ++ ":0): unexpected end of file, expected: " ++
      ", ".intercalate (expected.map TokenKind.name)
  | .blankInTag line column =>
    "(" ++ toString line ++ ":" ++ toString column ++ "): A tag may not contain whitespace"
  | .raggedTable line column =>
    "(" ++ toString line ++ ":" ++ toString column ++ "): inconsistent cell count within the table"
  | .unknownLanguage line column name =>
    "(" ++ toString line ++ ":" ++ toString column ++ "): Language not supported: " ++ name

/-! ## Parts of a line -/

namespace Line

/-- The number of blanks in front of the text. -/
def indent (l : Line) : Nat := ((l.text.getD []).takeWhile isBlank).length

/-- The text behind the blanks in front. -/
def trimmed (l : Line) : List Char := (l.text.getD []).dropWhile isBlank

/-- The column of the text. -/
def column (l : Line) : Nat := l.indent + 1

end Line

/-- Cuts a text at the first number sign behind a blank, blank included. -/
def cutComment : List Char → List Char
  | [] => []
  | [c] => [c]
  | c :: d :: rest => if isBlank c && d == '#' then [] else c :: cutComment (d :: rest)

/-- The tags among the pieces between at signs; the column is that of the next tag. -/
def tagsFrom (line : Nat) : Nat → List (List Char) → Except Fault (List String)
  | _, [] => .ok []
  | column, piece :: pieces =>
    if (trim piece).any isBlank then .error (.blankInTag line column)
    else
      (tagsFrom line (column + piece.length + 1) pieces).map
        ((String.ofList ('@' :: trim piece)) :: ·)

/-- The tags of a line. -/
def tagsOf (l : Line) : Except Fault (List String) :=
  tagsFrom l.number l.column ((splitAt '@' (trim (cutComment (trim l.trimmed)))).drop 1)

/-- Splits a table row at its bars; `cell` is the reversed start of the cell being read.  The text
behind the last bar is dropped. -/
def cellsFrom (cell : List Char) : List Char → List (List Char)
  | [] => []
  | '|' :: rest => cell.reverse :: cellsFrom [] rest
  | '\\' :: 'n' :: rest => cellsFrom ('\n' :: cell) rest
  | '\\' :: '|' :: rest => cellsFrom ('|' :: cell) rest
  | '\\' :: '\\' :: rest => cellsFrom ('\\' :: cell) rest
  | c :: rest => cellsFrom (c :: cell) rest

def isInnerBlank (c : Char) : Bool := isBlank c && c != '\n'

/-- A cell without the blanks around it; line feeds stay, blanks in front of a last one go. -/
def trimCell (cs : List Char) : List Char :=
  let cs := cs.dropWhile isInnerBlank
  match cs.reverse with
  | '\n' :: before => (before.dropWhile isInnerBlank).reverse ++ ['\n']
  | _ => dropEndWhile isInnerBlank cs

/-- The cells of a table row; the text in front of the first bar is dropped. -/
def cellsOf (row : List Char) : List String :=
  ((cellsFrom [] (trim row)).drop 1).map fun cell => .ofList (trimCell cell)

/-- The text behind a prefix. -/
def dropPrefix? (word : String) (cs : List Char) : Option (List Char) :=
  if word.toList.isPrefixOf cs then some (cs.drop word.length) else none

/-- The name that a comment line sets the language to. -/
def languageName? (cs : List Char) : Option String :=
  match cs.dropWhile isBlank with
  | '#' :: rest =>
    match dropPrefix? "language" (rest.dropWhile isBlank) with
    | some rest =>
      match rest.dropWhile isBlank with
      | ':' :: rest =>
        let rest := rest.dropWhile isBlank
        let isNameChar := fun (c : Char) => c.isAlpha || c == '-' || c == '_'
        let name := rest.takeWhile isNameChar
        if !name.isEmpty && (rest.dropWhile isNameChar).all isBlank then some (.ofList name)
        else none
      | _ => none
    | none => none
  | _ => none

/-- A text without the line ends behind it. -/
def dropLineEnd (cs : List Char) : String :=
  .ofList (dropEndWhile (fun c => c == '\r' || c == '\n') cs)

/-! ## Reading a line -/

/-- What carries over between lines: the dialect, and the mark and indent of an open doc string. -/
structure Scan where
  dialect : Dialect
  docString : Option (String × Nat)
  deriving Repr

def Scan.start : Scan := ⟨.english, none⟩

namespace Scan

/-- A title line: one of the keywords, a colon, and a name. -/
def title? (s : Scan) (keywords : List String) (l : Line) : Option Token :=
  keywords.findSome? fun k =>
    (dropPrefix? (k ++ ":") l.trimmed).map fun rest => .title s.dialect.name k (.ofList (trim rest))

/-- The type of a step keyword; one that serves several purposes is of none. -/
def keywordType (s : Scan) (keyword : String) : KeywordType :=
  if s.dialect.stepKeywords.count keyword > 1 then .unknown
  else if s.dialect.given.contains keyword then .kind .context
  else if s.dialect.action.contains keyword then .kind .action
  else if s.dialect.outcome.contains keyword then .kind .outcome
  else .conjunction

/-- A step line: a step keyword and a text. -/
def step? (s : Scan) (l : Line) : Option Token :=
  s.dialect.stepKeywordsByLength.findSome? fun k =>
    (dropPrefix? k l.trimmed).map fun rest => .step k (s.keywordType k) (.ofList (trim rest))

/-- The mark of a doc string line: any of the two outside, the opening one inside. -/
def docStringMark? (s : Scan) (l : Line) : Option String :=
  let marks := match s.docString with
    | none => ["\"\"\"", "\x60\x60\x60"]
    | some (mark, _) => [mark]
  marks.find? fun m => m.toList.isPrefixOf l.trimmed

/-- The text of a line that is no other token. -/
def otherText (s : Scan) (l : Line) : String :=
  let cut := match s.docString with
    | none => 0
    | some (_, indent) => indent
  dropLineEnd (if cut > l.indent then l.trimmed else (l.text.getD []).drop cut)

/-- Whether a line is a token of a kind, and if so what it says. -/
def token? (s : Scan) (kind : TokenKind) (l : Line) : Except Fault (Option Token) :=
  match l.text with
  | none => .ok (if kind = .eof then some .eof else none)
  | some _ =>
    match kind with
    | .eof => .ok none
    | .empty => .ok (if l.trimmed.isEmpty then some .empty else none)
    | .comment => .ok (if l.trimmed.head? = some '#' then some .comment else none)
    | .tagLine =>
      if l.trimmed.head? = some '@' then (tagsOf l).map fun names => some (.tags names)
      else .ok none
    | .language =>
      match languageName? l.trimmed with
      | none => .ok none
      | some name =>
        if (Dialect.ofName? name).isSome then .ok (some .language)
        else .error (.unknownLanguage l.number l.column name)
    | .featureLine => .ok (s.title? s.dialect.feature l)
    | .ruleLine => .ok (s.title? s.dialect.rule l)
    | .backgroundLine => .ok (s.title? s.dialect.background l)
    | .scenarioLine => .ok (s.title? (s.dialect.scenario ++ s.dialect.scenarioOutline) l)
    | .examplesLine => .ok (s.title? s.dialect.examples l)
    | .stepLine => .ok (s.step? l)
    | .docStringSeparator => .ok ((s.docStringMark? l).map fun _ => .docString)
    | .tableRow =>
      .ok (if l.trimmed.head? = some '|' then some (.row (cellsOf l.trimmed)) else none)
    | .other => .ok (some (.other (s.otherText l)))

/-- What carries over behind a line read as a token. -/
def after (s : Scan) (t : Token) (l : Line) : Scan :=
  match t with
  | .language =>
    match (languageName? l.trimmed).bind Dialect.ofName? with
    | some d => { s with dialect := d }
    | none => s
  | .docString =>
    match s.docString with
    | some _ => { s with docString := none }
    | none => { s with docString := (s.docStringMark? l).map fun mark => (mark, l.indent) }
  | _ => s

end Scan

/-! ## Lines of a text -/

/-- The lines of a text behind the first `number - 1`, `read` holding the reversed start of the
next one; a line keeps its line feed. -/
def linesFrom (number : Nat) (read : List Char) : List Char → List Line
  | [] =>
    if read.isEmpty then [⟨number, none⟩]
    else [⟨number, some read.reverse⟩, ⟨number + 1, none⟩]
  | '\n' :: rest => ⟨number, some ('\n' :: read).reverse⟩ :: linesFrom (number + 1) [] rest
  | c :: rest => linesFrom number (c :: read) rest

/-- The lines of a text and the end behind them. -/
def linesOf (text : String) : List Line := linesFrom 1 [] text.toList

end Acceptance.Gherkin
