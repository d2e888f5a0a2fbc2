import Acceptance.Text.IdentifierTable
import Acceptance.Text.WordTable

/-!
# Identifiers, words and digits

An identifier is a start character followed by continue characters; the underscore is both.  A
word character is a letter, a number of any kind or the underscore.  `reservedWords` are the words
that the generated test modules may not use as names.
-/

namespace Acceptance.Text

/-! ## Algorithm -/

/-- Characters that may stand in an identifier after its first place. -/
def isIdentifierPart (c : Char) : Bool := continueRanges.contains c.toNat

/-- Characters that may open an identifier. -/
def isIdentifierStart (c : Char) : Bool :=
  isIdentifierPart c && (c == '_' || !nonStartRanges.contains c.toNat)

def isIdentifierList : List Char → Bool
  | [] => false
  | c :: rest => isIdentifierStart c && rest.all isIdentifierPart

def isIdentifier (s : String) : Bool := isIdentifierList s.toList

/-- Letters, numbers and the underscore. -/
def isWordChar (c : Char) : Bool :=
  (isIdentifierPart c && (c == '_' || !joiningRanges.contains c.toNat)) ||
    numberRanges.contains c.toNat

/-- Decimal digits of any script. -/
def isDecimalDigit (c : Char) : Bool := digitRanges.contains c.toNat

/-- The value of a decimal digit. -/
def digitValue? (c : Char) : Option Nat :=
  (digitRanges.find? fun r => r.1 ≤ c.toNat && c.toNat ≤ r.2).map fun r => c.toNat - r.1

/-- Words that are no names in a test module. -/
def reservedWords : List String := [
  "False", "None", "True", "and", "as", "assert", "async", "await", "break", "class", "continue",
  "def", "del", "elif", "else", "except", "finally", "for", "from", "global", "if", "import", "in",
  "is", "lambda", "nonlocal", "not", "or", "pass", "raise", "return", "try", "while", "with",
  "yield"]

def isReserved (s : String) : Bool := reservedWords.contains s

/-! ## Lemmas -/

theorem isIdentifierPart_of_start {c : Char} (h : isIdentifierStart c = true) :
    isIdentifierPart c = true := by
  simp only [isIdentifierStart, Bool.and_eq_true] at h
  exact h.1

theorem isIdentifierList_cons_append {c : Char} {cs ds : List Char}
    (h : isIdentifierList (c :: cs) = true) (hd : ds.all isIdentifierPart = true) :
    isIdentifierList (c :: cs ++ ds) = true := by
  simp only [isIdentifierList, Bool.and_eq_true, List.cons_append, List.all_append] at h ⊢
  exact ⟨h.1, h.2, hd⟩

end Acceptance.Text
