import Acceptance.Text.CaseTable

/-!
# Upper case, lower case and comparison without regard to case

`upper` and `fold` map each character by itself, possibly to several; `lower` writes a capital
sigma at the end of a word in its final form.  `sameLetter` compares single characters by their
simple lower case and the few variants that share one upper case.

    fold (s ++ t) = fold s ++ fold t        (fold_append)
-/

namespace Acceptance.Text

/-! ## Algorithm -/

/-- The image of a character under a case mapping. -/
def mapCase (runs : CaseRuns) (expansions : List (Nat × List Nat)) (c : Char) : List Char :=
  match expansion? expansions c.toNat with
  | some codes => codes.map Char.ofNat
  | none => [Char.ofNat (runs.image c.toNat)]

def upperChar (c : Char) : List Char := mapCase upperRuns upperExpansions c

def lowerChar (c : Char) : List Char := mapCase lowerRuns lowerExpansions c

def foldChar (c : Char) : List Char := mapCase foldRuns foldExpansions c

/-- Whether a text begins with a cased letter, case-ignorable characters skipped. -/
def beginsCased (cs : List Char) : Bool :=
  match cs.dropWhile fun c => caseIgnorableRanges.contains c.toNat with
  | [] => false
  | c :: _ => casedRanges.contains c.toNat

/-- Lower case of `cs`, where `before` is the reversed text in front of it. -/
def lowerFrom (before : List Char) : List Char → List Char
  | [] => []
  | c :: rest =>
    (if c = 'Σ' then (if beginsCased before && !beginsCased rest then ['ς'] else ['σ'])
      else lowerChar c) ++ lowerFrom (c :: before) rest

def lowerList (cs : List Char) : List Char := lowerFrom [] cs

def lower (s : String) : String := .ofList (lowerList s.toList)

/-- Case folding: two texts agree without regard to case when their foldings are equal. -/
def fold (s : String) : String := .ofList (s.toList.flatMap foldChar)

/-- Lower case of a single character as a single character. -/
def simpleLower (c : Char) : Char :=
  match lowerChar c with
  | d :: _ => d
  | [] => c

/-- Whether two characters agree without regard to case. -/
def sameLetter (a b : Char) : Bool :=
  let x := simpleLower a
  let y := simpleLower b
  x == y || ((expansion? caseVariants x.toNat).getD []).contains y.toNat

/-! ## Lemmas -/

theorem fold_append (s t : String) : fold (s ++ t) = fold s ++ fold t := by
  simp [fold]

theorem sameLetter_refl (c : Char) : sameLetter c c = true := by
  simp [sameLetter]

end Acceptance.Text
