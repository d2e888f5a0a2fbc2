import Acceptance.Source.Literal

/-!
# Formatted texts

The body of a formatted text is plain text with values in braces between.  A value is the source
of an expression, with a conversion and a layout behind it where they are written; the layout is a
formatted text in turn, and a value inside it has no values inside its own layout.  A brace that
is plain text is written twice.

    pieces raw body = some ps        the pieces of a body, its plain texts decoded
-/

namespace Acceptance.Source

/-- A piece of a formatted text.  A value that shows its source has it as a plain text in front
of it. -/
inductive Piece where
  | text (s : String)
  | value (source : List Char) (conversion : Option Char) (layout : Option (List Piece))

/-! ## Plain text -/

/-- Where a run of plain text ends: at the end or a brace, or behind a doubled brace. -/
structure PlainRun where
  written : List Char
  doubled : Bool
  rest : List Char
  deriving Repr, DecidableEq

def PlainRun.push (c : Char) (r : PlainRun) : PlainRun := { r with written := c :: r.written }

def isBrace (c : Char) : Bool := c == '\x7b' || c == '\x7d'

/-- The run that ends at a brace.  Inside a layout, braces are not doubled. -/
def endRun (top : Bool) (brace : Char) (rest : List Char) : Option PlainRun :=
  if top && rest.head? = some brace then some ⟨[brace], true, rest.drop 1⟩
  else if top && brace = '\x7d' then none
  else some ⟨[], false, brace :: rest⟩

/-- The plain text at the start of a text. -/
def plainRun (raw top : Bool) : List Char → Option PlainRun
  | [] => some ⟨[], false, []⟩
  | '\\' :: c :: rest =>
    if raw then (plainRun raw top (c :: rest)).map (.push '\\')
    else if isBrace c then (endRun top c rest).map (.push '\\')
    else (plainRun raw top rest).map fun r => (r.push c).push '\\'
  | c :: rest =>
    if isBrace c then endRun top c rest else (plainRun raw top rest).map (.push c)

/-! ## Values -/

def isOpener (c : Char) : Bool := c == '(' || c == '[' || c == '\x7b'

def closerOf (c : Char) : Char := if c = '(' then ')' else if c = '[' then ']' else '\x7d'

/-- The marks that may end the source of a value. -/
def endsSource (c : Char) : Bool := c == '!' || c == ':' || c == '\x7d' || c == '='

/-- The marks that may be the first half of a comparison. -/
def mayCompare (c : Char) : Bool := c == '!' || c == '=' || c == '<' || c == '>'

/-- The source of a value, and the text from the mark that ends it.  `quote` is the quote that is
open, with whether it is a triple one, and `closers` what closes the open brackets. -/
def sourceRun (quote : Option (Char × Bool)) (closers : List Char) :
    List Char → Option (List Char × List Char)
  | [] => none
  | c :: rest =>
    if c = '\\' then none
    else
      let go (quote : Option (Char × Bool)) (closers : List Char) :=
        (sourceRun quote closers rest).map fun r => (c :: r.1, r.2)
      match quote with
      | some (q, triple) =>
        if c ≠ q then go quote closers
        else if !triple then go none closers
        else
          match rest with
          | d :: e :: behind =>
            if d = q ∧ e = q then
              (sourceRun none closers behind).map fun r => (c :: d :: e :: r.1, r.2)
            else go quote closers
          | _ => go quote closers
      | none =>
        if c = '\x27' ∨ c = '"' then
          match rest with
          | d :: e :: behind =>
            if d = c ∧ e = c then
              (sourceRun (some (c, true)) closers behind).map fun r => (c :: d :: e :: r.1, r.2)
            else go (some (c, false)) closers
          | _ => go (some (c, false)) closers
        else if isOpener c then go none (closerOf c :: closers)
        else if c = '#' then none
        else
          match closers with
          | [] =>
            match rest with
            | '=' :: behind =>
              if mayCompare c then (sourceRun none [] behind).map fun r => (c :: '=' :: r.1, r.2)
              else if endsSource c then some ([], c :: rest)
              else if c = ')' ∨ c = ']' then none
              else go none []
            | _ =>
              if endsSource c then some ([], c :: rest)
              else if c = ')' ∨ c = ']' then none
              else go none []
          | close :: outer =>
            if c = ')' ∨ c = ']' ∨ c = '\x7d' then
              if c = close then go none outer else none
            else go none closers

def isSourceBlank (c : Char) : Bool := c == ' ' || c == '\t' || c == '\n' || c == '\x0c'

/-- The source of a value that shows it: up to the mark `=` and the blanks behind it. -/
def shownSource (source rest : List Char) : Option (String × List Char) :=
  match rest with
  | '=' :: behind =>
    let isGap (c : Char) : Bool := isSourceBlank c || c == '\x0b' || c == '\r'
    some (.ofList (source ++ '=' :: behind.takeWhile isGap), behind.dropWhile isGap)
  | _ => none

/-- The conversion at the start of a text. -/
def conversionAt (rest : List Char) : Option (Option Char × List Char) :=
  match rest with
  | '!' :: c :: behind => if c = 's' ∨ c = 'r' ∨ c = 'a' then some (some c, behind) else none
  | '!' :: [] => none
  | _ => some (none, rest)

/-! ## Pieces -/

/-- A piece that is there only if its text is not empty. -/
def textPiece (s : String) : List Piece := if s.isEmpty then [] else [.text s]

/-- The pieces of a formatted text at a depth of layouts, and the text behind them. -/
def piecesAt (raw : Bool) : Nat → Nat → List Char → Option (List Piece × List Char)
  | 0, _, _ => none
  | fuel + 1, depth, cs =>
    match plainRun raw (depth == 0) cs with
    | none => none
    | some run =>
      match decodeText raw run.written with
      | none => none
      | some s =>
        let goOn (ps : List Piece) (rest : List Char) :=
          (piecesAt raw fuel depth rest).map fun r => (textPiece s ++ ps ++ r.1, r.2)
        if run.doubled then goOn [] run.rest
        else
          match run.rest with
          | '\x7b' :: rest =>
            if depth ≥ 2 then none
            else
              match sourceRun none [] rest with
              | none => none
              | some (source, rest) =>
                if source.all isSourceBlank then none
                else
                  let shown := shownSource source rest
                  let rest := (shown.map (·.2)).getD rest
                  match conversionAt rest with
                  | none => none
                  | some (conversion, rest) =>
                    let front := (shown.map fun (t, _) => [Piece.text t]).getD []
                    match rest with
                    | '\x7d' :: rest =>
                      let conversion :=
                        if shown.isSome && conversion.isNone then some 'r' else conversion
                      goOn (front ++ [.value source conversion none]) rest
                    | ':' :: rest =>
                      match piecesAt raw fuel (depth + 1) rest with
                      | some (layout, '\x7d' :: rest) =>
                        goOn (front ++ [.value source conversion (some layout)]) rest
                      | _ => none
                    | _ => none
          | rest => some (textPiece s, rest)

/-- The pieces of the body of a formatted text. -/
def pieces (raw : Bool) (body : List Char) : Option (List Piece) :=
  match piecesAt raw (body.length + 1) 0 body with
  | some (ps, []) => some ps
  | _ => none

end Acceptance.Source
