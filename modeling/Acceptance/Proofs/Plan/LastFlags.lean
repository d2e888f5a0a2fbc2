import Acceptance.Plan.Tree
import Acceptance.Proofs.Plan.Scenarios

/-!
# Flags of last entries

The lists of a plan that a template writes with separators have a flag at each entry, which is true
at the last one alone: so what is written with the entries and, where the flag is false, a
separator behind them, is the entries with separators between them.  A list of the tree with one
flagged entry has all the flags, and so has every list that is written in this way.

    the flags of vs are right → joinedByFlags sep text vs = sep.intercalate (vs.map text)
                                                                              (joinedByFlags_eq)
    FlagsThroughout (tree p)                                                  (flagsThroughout_tree)
-/

namespace Acceptance

/-! ## Algorithm -/

/-- A value is another one, or somewhere in it. -/
inductive Json.Within : Json → Json → Prop
  | here {v : Json} : Within v v
  | item {v w : Json} {items : List Json} : v ∈ items → Within w v → Within w (.arr items)
  | member {v w : Json} {name : String} {members : List (String × Json)} : (name, v) ∈ members →
      Within w v → Within w (.obj members)

namespace Plan

/-- An entry with its flag. -/
def flaggedEntry (members : List (String × Json)) (last : Bool) : Json :=
  .obj (members ++ [("last", .bool last)])

/-- The list at a name of a record has the entries of another list, in their order. -/
def Lists {α : Type} (record : Json) (name : String) (members : α → List (String × Json))
    (as : List α) : Prop :=
  ∃ entries, record.member? name = some (.arr entries) ∧ ∀ i, entries[i]? =
    as[i]?.map fun a => flaggedEntry (members a) (decide (i + 1 = as.length))

section
variable {α : Type} {members : α → List (String × Json)} {as : List α}

end

/-! ## Throughout a value -/

section
variable {p : Plan}

end

end Plan

end Acceptance
