import Acceptance.Text.Blank
import Acceptance.Text.Case

/-!
# Step patterns

A pattern is literal text around placeholders such as `\x7bname\x7d`.  A placeholder stands for a
double-quoted phrase or for a run of characters without blanks; literal text is compared without
regard to case.  One line feed may follow the text that a pattern matches.

    literals pattern                  the k + 1 literal pieces around k placeholders
    captures? pattern text            the values of the placeholders, quotes included
    arguments pattern text            the same without enclosing quotes, empty where nothing matches

The captures found are the first in this order: placeholders from left to right, a quoted phrase
before a bare run, a longer run before a shorter one.
-/

namespace Acceptance.Pattern

open Acceptance.Text

/-! ## Algorithm -/

/-- The text behind a placeholder that opens `cs`, its opening brace taken off already. -/
def afterPlaceholder? (cs : List Char) : Option (List Char) :=
  match cs.takeWhile (· != '\x7d'), cs.dropWhile (· != '\x7d') with
  | _ :: _, _ :: rest => some rest
  | _, _ => none

theorem afterPlaceholder?_length {cs rest : List Char} (h : afterPlaceholder? cs = some rest) :
    rest.length < cs.length := by
  have hl := congrArg List.length (List.takeWhile_append_dropWhile (p := (· != '\x7d')) (l := cs))
  unfold afterPlaceholder? at h
  split at h
  · rename_i h₁ h₂
    obtain rfl := Option.some.inj h
    rw [h₁, h₂] at hl
    simp at hl
    omega
  · simp at h

/-- Puts a character in front of the first piece. -/
def extendFirst (c : Char) : List (List Char) → List (List Char)
  | [] => [[c]]
  | piece :: pieces => (c :: piece) :: pieces

/-- The literal pieces around the placeholders. -/
def literals (cs : List Char) : List (List Char) :=
  match cs with
  | [] => [[]]
  | c :: rest =>
    if c = '\x7b' then
      match _h : afterPlaceholder? rest with
      | some behind => [] :: literals behind
      | none => extendFirst c (literals rest)
    else extendFirst c (literals rest)
termination_by cs.length
decreasing_by
  · have := afterPlaceholder?_length _h
    simp; omega
  · simp
  · simp

/-- The text behind a literal piece, compared without regard to case. -/
def dropLiteral? : List Char → List Char → Option (List Char)
  | [], text => some text
  | _ :: _, [] => none
  | p :: piece, c :: text => if sameLetter p c then dropLiteral? piece text else none

/-- A quoted phrase at the start of a text, with the text behind it. -/
def quotedStart? : List Char → Option (List Char × List Char)
  | '"' :: text =>
    match text.dropWhile (· != '"') with
    | close :: rest => some ('"' :: (text.takeWhile (· != '"') ++ [close]), rest)
    | [] => none
  | _ => none

/-- The non-empty prefixes of the text in front of the first blank, longest first. -/
def bareStarts : List Char → List (List Char × List Char)
  | [] => []
  | c :: text =>
    if isBlank c then []
    else (bareStarts text).map (fun s => (c :: s.1, s.2)) ++ [([c], text)]

/-- What a placeholder may stand for at the start of a text, in order of preference. -/
def candidates (text : List Char) : List (List Char × List Char) :=
  (quotedStart? text).toList ++ bareStarts text

/-- Whether a text is used up, a final line feed aside. -/
def isEnd (text : List Char) : Bool := text.isEmpty || text == ['\n']

/-- The captures of the placeholders in front of the given pieces. -/
def capturesBehind? : List (List Char) → List Char → Option (List (List Char))
  | [], text => if isEnd text then some [] else none
  | piece :: pieces, text =>
    (candidates text).findSome? fun s =>
      match dropLiteral? piece s.2 with
      | some rest => (capturesBehind? pieces rest).map (s.1 :: ·)
      | none => none

/-- The captures of a pattern given by its pieces. -/
def capturesOf? : List (List Char) → List Char → Option (List (List Char))
  | [], _ => none
  | piece :: pieces, text =>
    match dropLiteral? piece text with
    | some rest => capturesBehind? pieces rest
    | none => none

/-- The texts that the placeholders of a pattern stand for, where the pattern matches. -/
def captures? (pattern text : String) : Option (List String) :=
  (capturesOf? (literals pattern.toList) text.toList).map fun cs => cs.map .ofList

/-- Whether a pattern matches a text. -/
def accepts (pattern text : String) : Bool := (captures? pattern text).isSome

/-- A text without the double quotes around it. -/
def unquoteList : List Char → List Char
  | '"' :: rest => if rest.getLast? = some '"' then rest.dropLast else '"' :: rest
  | cs => cs

def unquote (value : String) : String := .ofList (unquoteList value.toList)

/-- The values of the placeholders, without the quotes around them. -/
def arguments (pattern text : String) : List String :=
  match captures? pattern text with
  | some values => values.map unquote
  | none => []

/-! ## Lemmas -/

theorem capturesBehind?_length {pieces : List (List Char)} {text : List Char}
    {values : List (List Char)} (h : capturesBehind? pieces text = some values) :
    values.length = pieces.length := by
  induction pieces generalizing text values with
  | nil =>
    simp only [capturesBehind?] at h
    split at h <;> simp_all
  | cons piece pieces ih =>
    simp only [capturesBehind?] at h
    obtain ⟨s, -, hs⟩ := List.exists_of_findSome?_eq_some h
    split at hs
    · obtain ⟨vs, hvs, rfl⟩ := Option.map_eq_some_iff.1 hs
      simp [ih hvs]
    · simp at hs

end Acceptance.Pattern
