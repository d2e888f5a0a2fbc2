import Acceptance.Plan.Name

/-!
# Names that differ

Of the numbered names for one name no two are the same, so among one more of them than there are
taken names one is free.

    unique name taken = numbered name n, where n is the least with numbered name n ∉ taken
-/

namespace Acceptance.Plan

open Acceptance.Text

theorem numbered_injective (name : String) {i j : Nat} (h : numbered name i = numbered name j) :
    i = j := by
  have hl := congrArg String.toList h
  cases i with
  | zero =>
    cases j with
    | zero => rfl
    | succ j => simp [numbered, Decimal.text, Decimal.digits_ne_nil] at hl
  | succ i =>
    cases j with
    | zero => simp [numbered, Decimal.text, Decimal.digits_ne_nil] at hl
    | succ j =>
      simp only [numbered, String.toList_append, List.append_cancel_left_eq] at hl
      have ht : Decimal.text (i + 2) = Decimal.text (j + 2) := by
        rw [← String.toList_inj]
        exact hl
      have := Decimal.text_injective ht
      omega

/-- The first names to try are too many to be taken all. -/
theorem exists_numbered_not_mem (name : String) (taken : List String) :
    ∃ i, i < taken.length + 1 ∧ numbered name i ∉ taken := by
  apply Classical.byContradiction
  intro hall
  have hsub : (List.range (taken.length + 1)).map (numbered name) ⊆ taken := by
    intro s hs
    obtain ⟨i, hi, rfl⟩ := List.mem_map.1 hs
    apply Classical.byContradiction
    intro hn
    exact hall ⟨i, List.mem_range.1 hi, hn⟩
  have hnodup : ((List.range (taken.length + 1)).map (numbered name)).Nodup := by
    rw [List.Nodup, List.pairwise_map]
    exact List.nodup_range.imp fun hne he => hne (numbered_injective name he)
  have hle := List.Nodup.length_le_of_subset hnodup hsub
  simp only [List.length_map, List.length_range] at hle
  omega

/-- **The first free name.**  A unique name is the first of the names to try that is not taken. -/
theorem unique_spec (name : String) (taken : List String) :
    ∃ n, unique name taken = numbered name n ∧ numbered name n ∉ taken ∧
      ∀ i, i < n → numbered name i ∈ taken := by
  obtain ⟨i, hi, hfree⟩ := exists_numbered_not_mem name taken
  unfold unique
  cases hf : ((List.range (taken.length + 1)).map (numbered name)).find? (!taken.contains ·) with
  | none =>
    have hnone := List.find?_eq_none.1 hf (numbered name i)
      (List.mem_map.2 ⟨i, List.mem_range.2 hi, rfl⟩)
    simp [hfree] at hnone
  | some s =>
    obtain ⟨hs, n, hn, hsn, hbefore⟩ := List.find?_eq_some_iff_getElem.1 hf
    simp only [List.getElem_map, List.getElem_range] at hsn
    subst hsn
    refine ⟨n, rfl, by simpa using hs, fun j hj => ?_⟩
    have hb := hbefore j hj
    simp only [List.getElem_map, List.getElem_range] at hb
    simpa using hb

theorem unique_not_mem (name : String) (taken : List String) : unique name taken ∉ taken := by
  obtain ⟨n, hn, hfree, -⟩ := unique_spec name taken
  rw [hn]
  exact hfree

end Acceptance.Plan
