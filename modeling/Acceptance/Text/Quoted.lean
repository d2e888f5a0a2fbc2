import Acceptance.Text.PrintableTable

/-!
# Quoted texts

Three written forms of a text as one literal on one line.

* `quote` writes double quotes and escapes the quote, the backslash and the control characters
  below the space; `quoteAscii` escapes all but printable ASCII, in units of sixteen bits.
* `quoteMarkup` is `quoteAscii` with `<`, `>`, `&` and the apostrophe escaped too.
* `literal` writes single quotes unless the text holds an apostrophe and no double quote, and
  escapes what has no visible form.

Each of the four is an `escape` of every character between two quotes.
-/

namespace Acceptance.Text

/-! ## Algorithm -/

def hexDigit (n : Nat) : Char :=
  if n < 10 then Char.ofNat ('0'.toNat + n) else Char.ofNat ('a'.toNat + (n - 10))

/-- The last `width` hexadecimal digits of a number. -/
def hexDigits : Nat → Nat → List Char
  | 0, _ => []
  | width + 1, n => hexDigits width (n / 16) ++ [hexDigit (n % 16)]

/-- A sixteen-bit escape. -/
def escapeUnit (n : Nat) : List Char := '\\' :: 'u' :: hexDigits 4 n

/-- A code point in one or two sixteen-bit escapes. -/
def escapeUnits (n : Nat) : List Char :=
  if n < 0x10000 then escapeUnit n
  else escapeUnit (0xD800 + (n - 0x10000) / 0x400) ++ escapeUnit (0xDC00 + (n - 0x10000) % 0x400)

/-- The short escapes and the controls of a double-quoted text. -/
def escapeControl? (c : Char) : Option (List Char) :=
  if c = '"' then some ['\\', '"']
  else if c = '\\' then some ['\\', '\\']
  else if c = '\n' then some ['\\', 'n']
  else if c = '\r' then some ['\\', 'r']
  else if c = '\t' then some ['\\', 't']
  else if c = '\x08' then some ['\\', 'b']
  else if c = '\x0c' then some ['\\', 'f']
  else if c.toNat < 0x20 then some (escapeUnit c.toNat)
  else none

/-- A character of a double-quoted text. -/
def escapeChar (c : Char) : List Char := (escapeControl? c).getD [c]

/-- A character of a double-quoted ASCII text. -/
def escapeAscii (c : Char) : List Char :=
  (escapeControl? c).getD (if c.toNat < 0x7F then [c] else escapeUnits c.toNat)

/-- A character of a double-quoted ASCII text that stands inside markup. -/
def escapeMarkup (c : Char) : List Char :=
  if c = '<' ∨ c = '>' ∨ c = '&' ∨ c = '\x27' then escapeUnit c.toNat else escapeAscii c

/-- Double-quoted text; all characters above the controls stand for themselves. -/
def quote (s : String) : String := .ofList ('"' :: (s.toList.flatMap escapeChar ++ ['"']))

/-- Double-quoted text in printable ASCII. -/
def quoteAscii (s : String) : String := .ofList ('"' :: (s.toList.flatMap escapeAscii ++ ['"']))

/-- Double-quoted text in printable ASCII without the characters that markup gives a meaning. -/
def quoteMarkup (s : String) : String := .ofList ('"' :: (s.toList.flatMap escapeMarkup ++ ['"']))

/-- Whether a character has a visible form. -/
def isPrintable (c : Char) : Bool := !unprintableRanges.contains c.toNat

/-- A character of a literal that is closed by `delimiter`. -/
def escapeLiteral (delimiter : Char) (c : Char) : List Char :=
  if c = delimiter ∨ c = '\\' then ['\\', c]
  else if c = '\n' then ['\\', 'n']
  else if c = '\r' then ['\\', 'r']
  else if c = '\t' then ['\\', 't']
  else if isPrintable c then [c]
  else if c.toNat < 0x100 then '\\' :: 'x' :: hexDigits 2 c.toNat
  else if c.toNat < 0x10000 then '\\' :: 'u' :: hexDigits 4 c.toNat
  else '\\' :: 'U' :: hexDigits 8 c.toNat

/-- The quote that a literal of the text uses. -/
def delimiter (cs : List Char) : Char :=
  if cs.contains '\x27' && !cs.contains '"' then '"' else '\x27'

/-- The text as a literal in the quote that needs fewer escapes. -/
def literal (s : String) : String :=
  let d := delimiter s.toList
  .ofList (d :: (s.toList.flatMap (escapeLiteral d) ++ [d]))

/-- A list of texts as bracketed literals. -/
def literalList (parts : List String) : String := "[" ++ ", ".intercalate (parts.map literal) ++ "]"

/-! ## Lemmas -/

theorem hexDigits_length (width n : Nat) : (hexDigits width n).length = width := by
  induction width generalizing n with
  | zero => rfl
  | succ width ih => simp [hexDigits, ih]

theorem toList_quote (s : String) :
    (quote s).toList = '"' :: (s.toList.flatMap escapeChar ++ ['"']) := by
  simp [quote]

theorem toList_quoteMarkup (s : String) :
    (quoteMarkup s).toList = '"' :: (s.toList.flatMap escapeMarkup ++ ['"']) := by
  simp [quoteMarkup]

end Acceptance.Text
