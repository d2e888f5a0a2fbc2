import Acceptance.Gherkin.Node

/-!
# Reading feature files

The reader takes the lines of a file through the grammar.  Faults are collected, each message
once; the reader gives up when there are more than ten.  A line that fits no row is passed over.

    Document.read text = .ok d         the text has no fault and says `d`
    Document.read text = .error fs     the faults `fs`, in the order in which they show
-/

namespace Acceptance.Gherkin

/-! ## Algorithm -/

/-- The state of reading; the open nodes stand innermost first. -/
structure Reading where
  place : Place
  scan : Scan
  openNodes : List Node
  document : Document
  faults : List Fault
  deriving Repr

namespace Reading

def start : Reading := ⟨.start, .start, [], none, []⟩

/-- Whether the reader has given up. -/
def stopped (r : Reading) : Bool := r.faults.length > 10

/-- Records a fault unless its message is known or the reader has given up. -/
def record (r : Reading) (f : Fault) : Reading :=
  if r.stopped || (r.faults.map Fault.message).contains f.message then r
  else { r with faults := r.faults ++ [f] }

/-- Adds a part to the innermost open node, or to the document. -/
def addPart (r : Reading) (p : Part) : Reading :=
  match r.openNodes with
  | n :: rest => { r with openNodes := { n with parts := p :: n.parts } :: rest }
  | [] =>
    match p with
    | .feature f => { r with document := some f }
    | _ => r

def addToken (r : Reading) (t : Token) (l : Line) : Reading :=
  match r.openNodes with
  | n :: rest =>
    { r with openNodes := { n with tokens := ⟨t, l.number, l.column⟩ :: n.tokens } :: rest }
  | [] => r

/-- Closes the innermost open node. -/
def closeNode (r : Reading) : Reading :=
  match r.openNodes with
  | [] => r
  | n :: rest =>
    let r := { r with openNodes := rest }
    match n.close with
    | .ok (some p) => r.addPart p
    | .ok none => r
    | .error f => r.record f

/-- Closes open nodes, innermost first. -/
def closeNodes : Nat → Reading → Reading
  | 0, r => r
  | n + 1, r => closeNodes n r.closeNode

/-- Opens nodes, outermost first. -/
def openAll (r : Reading) (kinds : List NodeKind) : Reading :=
  { r with openNodes := kinds.foldl (fun nodes k => .empty k :: nodes) r.openNodes }

/-- Whether a line is of a kind; a fault in it counts as no. -/
def test (r : Reading) (kind : TokenKind) (l : Line) : Reading × Option Token :=
  match r.scan.token? kind l with
  | .ok t => (r, t)
  | .error f => (r.record f, none)

/-- Whether the first of the lines that is no blank, comment or tag line is of a kind. -/
def lookAhead (r : Reading) (kind : TokenKind) : List Line → Reading × Bool
  | [] => (r, false)
  | l :: rest =>
    match r.test kind l with
    | (r, some _) => (r, true)
    | (r, none) =>
      match r.test .empty l with
      | (r, some _) => lookAhead r kind rest
      | (r, none) =>
        match r.test .comment l with
        | (r, some _) => lookAhead r kind rest
        | (r, none) =>
          match r.test .tagLine l with
          | (r, some _) => lookAhead r kind rest
          | (r, none) => (r, false)

/-- Whether a line passes the test of a row, given the lines behind it. -/
def passes (r : Reading) (t : Test) (l : Line) (rest : List Line) : Reading × Option Token :=
  match r.test t.kind l, t.before with
  | (r, some token), some kind =>
    match r.lookAhead kind rest with
    | (r, true) => (r, some token)
    | (r, false) => (r, none)
  | result, _ => result

/-- Moves to the place of a row. -/
def move (r : Reading) (t : Transition) (token : Token) (l : Line) : Reading :=
  let from_ := r.place.openNodes
  let entered := t.next.openNodes
  let r := closeNodes (from_.length - t.keep) r
  let r := r.openAll (entered.take (entered.length - t.keep)).reverse
  let r := r.addToken token l
  { r with place := t.next, scan := r.scan.after token l }

/-- The fault of a line that fits no row. -/
def misfit (p : Place) (l : Line) : Fault :=
  match l.text with
  | none => .unexpectedEnd l.number p.expected
  | some _ => .unexpectedToken l.number l.column p.expected (.ofList (Text.trim l.trimmed))

/-- Takes the first of the rows whose test a line passes. -/
def takeRow (r : Reading) (l : Line) (rest : List Line) : List Transition → Reading
  | [] => r.record (misfit r.place l)
  | t :: rows =>
    match r.passes t.test l rest with
    | (r, some token) => if r.stopped then r else r.move t token l
    | (r, none) => takeRow r l rest rows

/-- Reads lines until they end or the reader gives up. -/
def readLines (r : Reading) : List Line → Reading
  | [] => r
  | l :: rest => if r.stopped then r else readLines (r.takeRow l rest r.place.rows) rest

end Reading

/-- The document that a text writes. -/
def Document.read (text : String) : Except (List Fault) Document :=
  let r := Reading.start.readLines (linesOf text)
  if r.faults.isEmpty then .ok r.document else .error r.faults

/-- The message of a text with faults. -/
def faultsMessage (faults : List Fault) : String :=
  "Parser errors:\n" ++ "\n".intercalate (faults.map Fault.message)

end Acceptance.Gherkin
