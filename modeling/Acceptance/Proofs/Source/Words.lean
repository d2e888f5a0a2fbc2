import Acceptance.Proofs.Source.Literals

/-!
# Literals and comments as words

What the scan of a source text makes of a quoted text, of a documentation string and of a comment:
each is taken to its own end, whatever stands behind it.

    scanWord s (quoted body ++ rest) = some ([plainText body], s, rest)        (scanWord_quoted)
-/

namespace Acceptance.Source

open Acceptance.Text

/-- A text literal without marks. -/
def plainText (body : List Char) : Token := .text ⟨false, false, false, false, body⟩

theorem literalStart?_quote (cs : List Char) :
    literalStart? ('"' :: cs) = some ((false, false, false), false, '"', cs) := by
  simp [literalStart?, literalMarks]

theorem scanWord_quote (s : Lexing) (cs : List Char) : scanWord s ('"' :: cs) =
    (scanLiteral (false, false, false) false '"' cs).map fun (t, behind) => ([t], s, behind) := by
  rw [scanWord]
  · rw [if_neg (by decide), literalStart?_quote]
  all_goals simp

/-- A sealed body on one line with quotes around it is one word, unless a quote follows an empty
one. -/
theorem scanWord_quoted {body : List Char} (h : Contained body) (s : Lexing) {rest : List Char}
    (hrest : rest.head? ≠ some '"') :
    scanWord s ('"' :: (body ++ '"' :: rest)) = some ([plainText body], s, rest) := by
  have hshort : ((body ++ '"' :: rest).take 2 == ['"', '"']) = false := by
    rw [beq_eq_false_iff_ne]
    intro he
    cases h.isSealed with
    | nil =>
      cases rest with
      | nil => cases he
      | cons c rest => simp_all
    | plain hq _ _ => exact hq (List.cons.inj he).1
    | escape _ => exact absurd (List.cons.inj he).1 (by decide)
  rw [scanWord_quote, scanLiteral, hshort, if_neg Bool.false_ne_true,
    shortBody_sealed h.isSealed fun hm => (h.line _ hm).1 rfl]
  rfl

/-- A sealed body between three quotes is one word. -/
theorem scanWord_documentation {body : List Char} (h : Sealed body) (s : Lexing)
    (rest : List Char) :
    scanWord s ('"' :: '"' :: '"' :: (body ++ '"' :: '"' :: '"' :: rest)) =
      some ([plainText body], s, rest) := by
  have hlong : (('"' :: '"' :: (body ++ '"' :: '"' :: '"' :: rest)).take 2 == ['"', '"']) = true :=
    rfl
  rw [scanWord_quote, scanLiteral, hlong, if_pos rfl, List.drop_succ_cons, List.drop_succ_cons,
    List.drop_zero, longBody_sealed h]
  rfl

/-- A comment is dropped up to the end of its line. -/
theorem scanWord_comment {cs : List Char} (h : OnOneLine cs) (s : Lexing) (rest : List Char) :
    scanWord s ('#' :: (cs ++ '\n' :: rest)) = some ([], s, '\n' :: rest) := by
  have hdrop : (cs ++ '\n' :: rest).dropWhile (· != '\n') = '\n' :: rest := by
    rw [List.dropWhile_append_of_pos fun c hc => by simp [(h c hc).1]]
    rfl
  rw [scanWord, hdrop]

end Acceptance.Source
