import Std.Data.HashMap
import Acceptance.Text.CompositionTable

/-!
# The compatibility normal form of identifiers

Two spellings of an identifier name the same thing when their normal forms agree.  The normal form
decomposes every character fully, puts marks into the order of their classes and joins starters
with the marks behind them again.

    normalForm cs = compose (reorder (cs.flatMap decompose))
-/

namespace Acceptance.Text

/-! ## Tables -/

def hexDigitValue (c : Char) : Nat :=
  if c.isDigit then c.toNat - '0'.toNat
  else if 'A' ≤ c ∧ c ≤ 'F' then c.toNat - 'A'.toNat + 10
  else if 'a' ≤ c ∧ c ≤ 'f' then c.toNat - 'a'.toNat + 10
  else 0

def hexValue (s : String) : Nat := s.toList.foldl (fun n c => n * 16 + hexDigitValue c) 0

/-- The runs and images that the words of a table list. -/
def tableRows (lines : List String) : List (Nat × Nat × List Nat) :=
  (lines.flatMap (·.splitOn " ")).filterMap fun word =>
    match word.splitOn "=" with
    | [key, image] =>
      let image := (image.splitOn ",").map hexValue
      match key.splitOn "-" with
      | [first, last] => some (hexValue first, hexValue last, image)
      | _ => some (hexValue key, hexValue key, image)
    | _ => none

/-- Shifts a one-character image along a run. -/
def shiftImage (image : List Nat) (d : Nat) : List Nat :=
  match image with
  | [n] => [n + d]
  | _ => image

def decompositions : Std.HashMap Nat (List Nat) :=
  (tableRows decompositionWords).foldl (fun table row =>
    (List.range (row.2.1 + 1 - row.1)).foldl
      (fun table d => table.insert (row.1 + d) (shiftImage row.2.2 d)) table) ∅

def combiningClasses : Std.HashMap Nat Nat :=
  (tableRows combiningClassWords).foldl (fun table row =>
    (List.range (row.2.1 + 1 - row.1)).foldl
      (fun table d => table.insert (row.1 + d) (row.2.2.headD 0)) table) ∅

/-- Composites under the pair they decompose into. -/
def compositions : Std.HashMap (Nat × Nat) Nat :=
  (compositionWords.flatMap (·.splitOn " ")).foldl (fun table word =>
    match word.splitOn "=" with
    | [pair, image] =>
      match pair.splitOn "," with
      | [a, b] => table.insert (hexValue a, hexValue b) (hexValue image)
      | _ => table
    | _ => table) ∅

/-! ## Algorithm -/

def combiningClass (n : Nat) : Nat := combiningClasses.getD n 0

/-- Full decomposition; a Hangul syllable is split into its letters by their numbers. -/
def decompose (n : Nat) : List Nat :=
  if 0xAC00 ≤ n ∧ n ≤ 0xD7A3 then
    let s := n - 0xAC00
    let letters := [0x1100 + s / 588, 0x1161 + s % 588 / 28]
    if s % 28 = 0 then letters else letters ++ [0x11A7 + s % 28]
  else decompositions.getD n [n]

/-- The composite of a starter and a following character. -/
def composite? (a b : Nat) : Option Nat :=
  if 0x1100 ≤ a ∧ a < 0x1113 ∧ 0x1161 ≤ b ∧ b < 0x1176 then
    some (0xAC00 + ((a - 0x1100) * 21 + (b - 0x1161)) * 28)
  else if 0xAC00 ≤ a ∧ a ≤ 0xD7A3 ∧ (a - 0xAC00) % 28 = 0 ∧ 0x11A7 < b ∧ b < 0x11C3 then
    some (a + (b - 0x11A7))
  else compositions[(a, b)]?

/-- Inserts a mark behind those of a class not above its own; `before` is reversed. -/
def insertMark (n : Nat) : List Nat → List Nat
  | [] => [n]
  | m :: before =>
    if combiningClass m > combiningClass n then m :: insertMark n before else n :: m :: before

/-- Sorts every run of marks by class, keeping the order within a class. -/
def reorder (codes : List Nat) : List Nat :=
  (codes.foldl (fun before n =>
    if combiningClass n = 0 then n :: before else insertMark n before) []).reverse

/-- Joins `starter` with the characters behind it; `marks` are those, reversed, that stay apart. -/
def composeFrom (starter : Nat) (marks : List Nat) : List Nat → List Nat
  | [] => starter :: marks.reverse
  | n :: rest =>
    let free := match marks with
      | [] => true
      | m :: _ => decide (combiningClass m < combiningClass n)
    match if free then composite? starter n else none with
    | some joined => composeFrom joined marks rest
    | none =>
      if combiningClass n = 0 then starter :: (marks.reverse ++ composeFrom n [] rest)
      else composeFrom starter (n :: marks) rest

/-- Joins every starter with the marks behind it. -/
def compose : List Nat → List Nat
  | [] => []
  | n :: rest => if combiningClass n = 0 then composeFrom n [] rest else n :: compose rest

/-- The normal form of an identifier. -/
def normalForm (s : String) : String :=
  if s.toList.all fun c => decide (c.toNat < 128) then s
  else .ofList ((compose (reorder (s.toList.flatMap fun c => decompose c.toNat))).map Char.ofNat)

end Acceptance.Text
