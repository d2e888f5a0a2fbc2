import Acceptance.Json.Basic
import Acceptance.Text.Compose

/-!
# Reading JSON

The reader accepts what the grammar of JSON derives, and the words `NaN`, `Infinity` and
`-Infinity` as numbers.  Every step returns the text behind what it has read; a fault is placed by
the number of characters left when it shows.

    read text = .ok v        one value, with blanks around it and nothing else
-/

namespace Acceptance.Json

open Acceptance.Text

/-! ## Faults -/

inductive FaultKind where
  | value
  | memberName
  | colon
  | comma
  | extra
  | unterminated
  | control
  | escape
  | unicodeEscape
  | byteOrderMark
  deriving Repr, DecidableEq

/-- A fault with `left` characters of the text not yet read. -/
structure Fault where
  kind : FaultKind
  left : Nat
  deriving Repr, DecidableEq

/-- A fault at a place of a text; lines and columns count from one, the offset from zero. -/
structure ReadError where
  kind : FaultKind
  line : Nat
  column : Nat
  offset : Nat
  deriving Repr, DecidableEq

def FaultKind.message : FaultKind → String
  | .value => "Expecting value"
  | .memberName => "Expecting property name enclosed in double quotes"
  | .colon => "Expecting ':' delimiter"
  | .comma => "Expecting ',' delimiter"
  | .extra => "Extra data"
  | .unterminated => "Unterminated string starting at"
  | .control => "Invalid control character at"
  | .escape => "Invalid \\escape"
  | .unicodeEscape => "Invalid \\uXXXX escape"
  | .byteOrderMark => "Unexpected UTF-8 BOM (decode using utf-8-sig)"

def ReadError.message (e : ReadError) : String :=
  e.kind.message ++ ": line " ++ toString e.line ++ " column " ++ toString e.column ++
    " (char " ++ toString e.offset ++ ")"

/-- The place of a fault in its text. -/
def Fault.locate (f : Fault) (text : List Char) : ReadError :=
  let before := text.take (text.length - f.left)
  { kind := f.kind
    line := before.count '\n' + 1
    column := (before.reverse.takeWhile (· != '\n')).length + 1
    offset := before.length }

/-! ## Algorithm -/

def isJsonBlank (c : Char) : Bool := c == ' ' || c == '\t' || c == '\n' || c == '\r'

def skipBlanks (cs : List Char) : List Char := cs.dropWhile isJsonBlank

def isHexDigit (c : Char) : Bool :=
  c.isDigit || ('a' ≤ c && c ≤ 'f') || ('A' ≤ c && c ≤ 'F')

/-- The value of four hexadecimal digits. -/
def hex4? (a b c d : Char) : Option Nat :=
  if [a, b, c, d].all isHexDigit then
    some ([a, b, c, d].foldl (fun n x => n * 16 + hexDigitValue x) 0)
  else none

/-- The character of a code unit that is no half of a pair. -/
def unitChar (n : Nat) : Char := if 0xD800 ≤ n ∧ n < 0xE000 then '\ufffd' else Char.ofNat n

/-- What a one-letter escape stands for. -/
def shortEscape? : Char → Option Char
  | '"' => some '"'
  | '\\' => some '\\'
  | '/' => some '/'
  | 'b' => some '\x08'
  | 'f' => some '\x0c'
  | 'n' => some '\n'
  | 'r' => some '\r'
  | 't' => some '\t'
  | _ => none

/-- The character of the escape with the digits `a b c d`, and what is left of `rest`: the second
half of a pair is read with the first one. -/
def unicodeEscape (a b c d : Char) (rest : List Char) : Except Fault (Char × List Char) :=
  match hex4? a b c d with
  | none => .error ⟨.unicodeEscape, rest.length + 5⟩
  | some n =>
    match rest with
    | '\\' :: 'u' :: e :: f :: g :: h :: behind =>
      if 0xD800 ≤ n ∧ n < 0xDC00 ∧ behind ≠ [] then
        match hex4? e f g h with
        | none => .error ⟨.unicodeEscape, behind.length + 5⟩
        | some m =>
          if 0xDC00 ≤ m ∧ m < 0xE000 then
            .ok (Char.ofNat (0x10000 + (n - 0xD800) * 0x400 + (m - 0xDC00)), behind)
          else .ok (unitChar n, rest)
      else .ok (unitChar n, rest)
    | _ => .ok (unitChar n, rest)

theorem unicodeEscape_length {a b c d x : Char} {cs rest : List Char}
    (h : unicodeEscape a b c d cs = .ok (x, rest)) : rest.length ≤ cs.length := by
  unfold unicodeEscape at h
  split at h
  · simp at h
  · split at h
    · split at h
      · split at h
        · simp at h
        · split at h
          · simp only [Except.ok.injEq, Prod.mk.injEq] at h
            rw [← h.2]
            simp
            omega
          · simp only [Except.ok.injEq, Prod.mk.injEq] at h
            exact Nat.le_of_eq (congrArg List.length h.2.symm)
      · simp only [Except.ok.injEq, Prod.mk.injEq] at h
        exact Nat.le_of_eq (congrArg List.length h.2.symm)
    · simp only [Except.ok.injEq, Prod.mk.injEq] at h
      exact Nat.le_of_eq (congrArg List.length h.2.symm)

/-- The text of a string whose opening quote had `start` characters left, and what is behind it;
`read` holds the characters before, reversed. -/
def readStringFrom (start : Nat) (read : List Char) (cs : List Char) :
    Except Fault (String × List Char) :=
  match cs with
  | [] => .error ⟨.unterminated, start⟩
  | '"' :: rest => .ok (.ofList read.reverse, rest)
  | '\\' :: rest =>
    match rest with
    | [] => .error ⟨.unterminated, start⟩
    | 'u' :: a :: b :: c :: d :: behind =>
      if behind.isEmpty then .error ⟨.unicodeEscape, behind.length + 5⟩
      else
        match h : unicodeEscape a b c d behind with
        | .error f => .error f
        | .ok (x, behind') =>
          have := unicodeEscape_length h
          readStringFrom start (x :: read) behind'
    | 'u' :: short => .error ⟨.unicodeEscape, short.length + 1⟩
    | c :: behind =>
      match shortEscape? c with
      | some x => readStringFrom start (x :: read) behind
      | none => .error ⟨.escape, behind.length + 2⟩
  | c :: rest =>
    if c.toNat < 0x20 then .error ⟨.control, rest.length + 1⟩
    else readStringFrom start (c :: read) rest
termination_by cs.length
decreasing_by all_goals simp_all <;> omega

/-- A string behind its opening quote. -/
def readString (cs : List Char) : Except Fault (String × List Char) :=
  readStringFrom (cs.length + 1) [] cs

/-- The digits at the start of a text. -/
def digitsOf (cs : List Char) : List Char × List Char :=
  (cs.takeWhile Char.isDigit, cs.dropWhile Char.isDigit)

/-- The fraction at the start of a text, empty where there is none. -/
def fractionOf : List Char → List Char × List Char
  | '.' :: rest =>
    match digitsOf rest with
    | ([], _) => ([], '.' :: rest)
    | (ds, behind) => ('.' :: ds, behind)
  | cs => ([], cs)

/-- The exponent at the start of a text, empty where there is none. -/
def exponentOf : List Char → List Char × List Char
  | [] => ([], [])
  | e :: rest =>
    if e = 'e' ∨ e = 'E' then
      let (sign, behind) :=
        match rest with
        | '+' :: r => (['+'], r)
        | '-' :: r => (['-'], r)
        | r => ([], r)
      match digitsOf behind with
      | ([], _) => ([], e :: rest)
      | (ds, r) => (e :: (sign ++ ds), r)
    else ([], e :: rest)

/-- The whole part at the start of a text: zero, or digits without a leading zero. -/
def wholeOf? : List Char → Option (List Char × List Char)
  | '0' :: rest => some (['0'], rest)
  | cs =>
    match digitsOf cs with
    | ([], _) => none
    | parts => some parts

/-- A number without its sign. -/
def readUnsigned? (negative : Bool) (cs : List Char) : Option (Json × List Char) :=
  match wholeOf? cs with
  | none => none
  | some (whole, rest) =>
    let (fraction, rest) := fractionOf rest
    let (exponent, rest) := exponentOf rest
    let sign := if negative then ['-'] else []
    if fraction.isEmpty && exponent.isEmpty then
      let n := Decimal.value whole
      some (.int (if negative then -(n : Int) else n), rest)
    else some (.decimal (.ofList (sign ++ whole ++ fraction ++ exponent)), rest)

/-- The values that are written as a word. -/
def words : List (String × Json) := [
  ("null", .null), ("true", .bool true), ("false", .bool false), ("NaN", .decimal "NaN"),
  ("Infinity", .decimal "Infinity"), ("-Infinity", .decimal "-Infinity")]

/-- The text behind a prefix. -/
def dropPrefix? : List Char → List Char → Option (List Char)
  | [], cs => some cs
  | p :: ps, c :: cs => if p = c then dropPrefix? ps cs else none
  | _ :: _, [] => none

/-- A word or a number. -/
def readScalar (cs : List Char) : Except Fault (Json × List Char) :=
  match words.findSome? fun w => (dropPrefix? w.1.toList cs).map fun rest => (w.2, rest) with
  | some r => .ok r
  | none =>
    let number := match cs with
      | '-' :: rest => readUnsigned? true rest
      | rest => readUnsigned? false rest
    match number with
    | some r => .ok r
    | none => .error ⟨.value, cs.length⟩

mutual

/-- One value and the text behind it. -/
def readValue : Nat → List Char → Except Fault (Json × List Char)
  | 0, cs => .error ⟨.value, cs.length⟩
  | fuel + 1, cs =>
    match cs with
    | '"' :: rest => (readString rest).map fun r => (.str r.1, r.2)
    | '[' :: rest =>
      match skipBlanks rest with
      | ']' :: behind => .ok (.arr [], behind)
      | items => (readItems fuel items).map fun r => (.arr r.1, r.2)
    | '\x7b' :: rest =>
      match skipBlanks rest with
      | '\x7d' :: behind => .ok (.obj [], behind)
      | members => (readMembers fuel [] members).map fun r => (.obj r.1, r.2)
    | cs => readScalar cs

/-- The items of an array and the text behind its end. -/
def readItems : Nat → List Char → Except Fault (List Json × List Char)
  | 0, cs => .error ⟨.value, cs.length⟩
  | fuel + 1, cs =>
    match readValue fuel cs with
    | .error f => .error f
    | .ok (v, rest) =>
      match skipBlanks rest with
      | ']' :: behind => .ok ([v], behind)
      | ',' :: behind => (readItems fuel (skipBlanks behind)).map fun r => (v :: r.1, r.2)
      | rest => .error ⟨.comma, rest.length⟩

/-- The members of an object behind those already read, and the text behind its end. -/
def readMembers : Nat → List (String × Json) → List Char →
    Except Fault (List (String × Json) × List Char)
  | 0, _, cs => .error ⟨.value, cs.length⟩
  | fuel + 1, members, cs =>
    match cs with
    | '"' :: rest =>
      match readString rest with
      | .error f => .error f
      | .ok (name, rest) =>
        match skipBlanks rest with
        | ':' :: rest =>
          match readValue fuel (skipBlanks rest) with
          | .error f => .error f
          | .ok (v, rest) =>
            match skipBlanks rest with
            | '\x7d' :: behind => .ok (setMember members name v, behind)
            | ',' :: behind => readMembers fuel (setMember members name v) (skipBlanks behind)
            | rest => .error ⟨.comma, rest.length⟩
        | rest => .error ⟨.colon, rest.length⟩
    | cs => .error ⟨.memberName, cs.length⟩

end

/-- One value with blanks around it. -/
def readAll (cs : List Char) : Except Fault Json :=
  if cs.head? = some '\ufeff' then .error ⟨.byteOrderMark, cs.length⟩
  else
    match readValue (2 * cs.length + 2) (skipBlanks cs) with
    | .error f => .error f
    | .ok (v, rest) =>
      match skipBlanks rest with
      | [] => .ok v
      | extra => .error ⟨.extra, extra.length⟩

/-- The value that a text writes. -/
def read (text : String) : Except ReadError Json :=
  match readAll text.toList with
  | .ok v => .ok v
  | .error f => .error (f.locate text.toList)

end Acceptance.Json
