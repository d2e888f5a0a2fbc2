import Acceptance.Text.CodeRange

/-!
# Blanks and lines

A blank is any character with the white-space property, the file, group, record and unit
separators among them.  Lines end at every character that Unicode counts as a line or paragraph
end; a carriage return followed by a line feed ends one line.

    dropEndWhile p cs = (cs.reverse.dropWhile p).reverse
    trim cs = dropEndWhile isBlank (cs.dropWhile isBlank)
-/

namespace Acceptance.Text

/-! ## Algorithm -/

/-- Characters with the white-space property. -/
def blankRanges : CodeRanges := [
  (0x9, 0xD), (0x1C, 0x20), (0x85, 0x85), (0xA0, 0xA0), (0x1680, 0x1680), (0x2000, 0x200A),
  (0x2028, 0x2029), (0x202F, 0x202F), (0x205F, 0x205F), (0x3000, 0x3000)]

def isBlank (c : Char) : Bool := blankRanges.contains c.toNat

/-- The text without its longest end whose characters satisfy `p`. -/
def dropEndWhile (p : Char → Bool) (cs : List Char) : List Char :=
  (cs.reverse.dropWhile p).reverse

/-- The text without the characters satisfying `p` at either end. -/
def trimWhile (p : Char → Bool) (cs : List Char) : List Char :=
  dropEndWhile p (cs.dropWhile p)

/-- The text without blanks at either end. -/
def trim (cs : List Char) : List Char := trimWhile isBlank cs

/-- The text without blanks at either end. -/
def strip (s : String) : String := .ofList (trim s.toList)

/-- The text without blanks at its start. -/
def stripStart (s : String) : String := .ofList (s.toList.dropWhile isBlank)

/-- Characters that end a line. -/
def isLineEnd (c : Char) : Bool :=
  ['\n', '\r', '\x0b', '\x0c', '\x1c', '\x1d', '\x1e', '\u0085', '\u2028', '\u2029'].contains c

/-- The lines of `cs`, `line` holding the reversed start of the first one. -/
def linesFrom (line : List Char) : List Char → List (List Char)
  | [] => if line.isEmpty then [] else [line.reverse]
  | '\r' :: '\n' :: rest => line.reverse :: linesFrom [] rest
  | c :: rest =>
    if isLineEnd c then line.reverse :: linesFrom [] rest else linesFrom (c :: line) rest

/-- The lines of a text without their ends; a text that ends a line has no empty line after it. -/
def lines (s : String) : List String := (linesFrom [] s.toList).map .ofList

/-- Joins texts with a separator between neighbours. -/
def join (separator : String) (parts : List String) : String := separator.intercalate parts

/-- Splits at every occurrence of `c`; the pieces are one more than the occurrences. -/
def splitAt (c : Char) : List Char → List (List Char)
  | [] => [[]]
  | d :: rest =>
    if d = c then [] :: splitAt c rest
    else match splitAt c rest with
      | [] => [[d]]
      | piece :: pieces => (d :: piece) :: pieces

/-- Replaces every occurrence of a character by a text. -/
def substitute (c : Char) (replacement : List Char) (cs : List Char) : List Char :=
  cs.flatMap fun d => if d = c then replacement else [d]

/-- A text read from a file: every line end of the kinds `\r\n` and `\r` becomes a line feed. -/
def unifyLineEnds : List Char → List Char
  | [] => []
  | '\r' :: '\n' :: rest => '\n' :: unifyLineEnds rest
  | c :: rest => (if c = '\r' then '\n' else c) :: unifyLineEnds rest

/-! ## Lemmas -/

theorem splitAt_ne_nil (c : Char) (cs : List Char) : splitAt c cs ≠ [] := by
  cases cs with
  | nil => simp [splitAt]
  | cons d rest =>
    by_cases h : d = c
    · simp [splitAt, h]
    · simp only [splitAt, if_neg h]
      split <;> simp

theorem unifyLineEnds_eq_self {cs : List Char} (h : '\r' ∉ cs) : unifyLineEnds cs = cs := by
  fun_induction unifyLineEnds cs with
  | case1 => rfl
  | case2 rest ih => simp at h
  | case3 c rest _ ih =>
    simp only [List.mem_cons, not_or] at h
    rw [ih h.2, if_neg (Ne.symm h.1)]

end Acceptance.Text
