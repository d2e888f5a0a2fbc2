import Acceptance.Proofs.Source.Evaluation

/-!
# Quoted texts in a row

A text in double quotes is one literal on one line, and the literal denotes the text.  Quoted texts
with a comma and a blank between them are read back as the list of the texts, so no two lists of
texts are written alike.

    Contained body ∧ Denotes body (pointsOf s)     where (quote s).toList = inQuotes body
                                                                                (exists_body_quote)
    readExpression (quote s).toList = some (.text s false)                   (readExpression_quote)
    readLiterals (", ".intercalate (ss.map quote)).toList = some ss            (readLiterals_quotes)
-/

namespace Acceptance.Source

open Acceptance.Text

/-! ## One text -/

/-- What stands between the quotes ends neither the literal nor the line, and denotes the text. -/
theorem exists_body_quote (s : String) :
    ∃ body, (quote s).toList = inQuotes body ∧ Contained body ∧ Denotes body (pointsOf s) :=
  ⟨_, toList_quote s, contained_flatMap contained_escapeChar s.toList, denotes_quote s⟩

/-! ## Texts in a row -/

theorem toList_quotes (ss : List String) : (", ".intercalate (ss.map quote)).toList =
    commaLiterals (ss.map fun s => s.toList.flatMap escapeChar) := by
  have hquoted : (ss.map quote).map String.toList =
      (ss.map fun s => s.toList.flatMap escapeChar).map inQuotes := by
    rw [List.map_map, List.map_map]
    exact List.map_congr_left fun s _ => toList_quote s
  rw [String.toList_intercalate, hquoted]
  rfl

/-- **Quoted texts in a row are read as the list of the texts.** -/
theorem readLiterals_quotes (ss : List String) :
    readLiterals (", ".intercalate (ss.map quote)).toList = some ss := by
  rw [toList_quotes, readLiterals_commaLiterals (fun s => contained_flatMap contained_escapeChar _)
    (fun s => decodeText_denotes (denotes_quote s)), List.map_id']

/-- What is read back tells two lists of texts apart. -/
theorem quotes_inj {ss ts : List String} :
    ", ".intercalate (ss.map quote) = ", ".intercalate (ts.map quote) ↔ ss = ts := by
  refine ⟨fun h => ?_, fun h => h ▸ rfl⟩
  have hread := readLiterals_quotes ss
  rw [h, readLiterals_quotes ts] at hread
  exact (Option.some.inj hread).symm

/-! ## Top theorem -/

/-- **Quoted texts are read as they were written, one by one and in a row.** -/
theorem quoted_readable (s : String) (ss : List String) :
    (∃ body, (quote s).toList = inQuotes body ∧ Contained body ∧ Denotes body (pointsOf s)) ∧
      readExpression (quote s).toList = some (.text s false) ∧
      readLiterals (", ".intercalate (ss.map quote)).toList = some ss ∧
      ∀ ts, ", ".intercalate (ss.map quote) = ", ".intercalate (ts.map quote) ↔ ss = ts :=
  ⟨exists_body_quote s, readExpression_quote s, readLiterals_quotes ss, fun _ => quotes_inj⟩

end Acceptance.Source
