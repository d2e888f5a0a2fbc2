import Acceptance.Text.Case

/-!
# Case mappings and small characters

No character before the small letter `a` comes up in lower case or in a folding but for itself; a
text in lower case has no separators that the text had not.

    d ∈ lowerList cs → d ∈ cs              for d.toNat < 97         (mem_of_mem_lowerList)
    d ∈ (fold s).toList → d ∈ s.toList     for d.toNat < 97         (mem_of_mem_fold)
-/

namespace Acceptance.Text

/-- The code point from which on the tables of lower case and folding have their images. -/
def lowestImage : Nat := 97

/-- A code point is its own image, or a run moves it. -/
theorem CaseRuns.image_cases (runs : CaseRuns) (n : Nat) :
    runs.image n = n ∨ ∃ r ∈ runs, ∃ k, k ≤ r.2.1 - r.1 ∧ k % r.2.2.1 = 0 ∧ n = r.1 + k ∧
      runs.image n = r.2.2.2 + k := by
  induction runs with
  | nil => exact .inl rfl
  | cons r rest ih =>
    obtain ⟨lo, hi, step, target⟩ := r
    have hrest : image rest n = n ∨ ∃ r ∈ (lo, hi, step, target) :: rest, ∃ k,
        k ≤ r.2.1 - r.1 ∧ k % r.2.2.1 = 0 ∧ n = r.1 + k ∧ image rest n = r.2.2.2 + k := by
      refine ih.imp id ?_
      rintro ⟨r, hr, hmoved⟩
      exact ⟨r, List.mem_cons_of_mem _ hr, hmoved⟩
    rw [image]
    split
    · exact .inl rfl
    · next hlo =>
      split
      · next hhi =>
        split
        · next hstep =>
          exact .inr ⟨_, List.mem_cons_self, n - lo, Nat.sub_le_sub_right hhi lo, hstep,
            (Nat.add_sub_cancel' (Nat.not_lt.1 hlo)).symm, rfl⟩
        · exact hrest
      · exact hrest

theorem CaseRuns.image_eq_or_within (runs : CaseRuns) (n : Nat) :
    runs.image n = n ∨
      ∃ r ∈ runs, r.2.2.2 ≤ runs.image n ∧ runs.image n ≤ r.2.2.2 + (r.2.1 - r.1) := by
  refine (runs.image_cases n).imp id ?_
  rintro ⟨r, hr, k, hk, -, -, himage⟩
  exact ⟨r, hr, by omega⟩

/-- Images from the lowest one on that are code points of characters. -/
def IsImage (n : Nat) : Prop := lowestImage ≤ n ∧ n.isValidChar

theorem IsImage.le_toNat {n : Nat} (h : IsImage n) : lowestImage ≤ (Char.ofNat n).toNat := by
  rw [Char.ofNat, dif_pos h.2]
  exact h.1

/-- A case mapping that sends characters to characters from the lowest image on. -/
structure HasImages (runs : CaseRuns) (expansions : List (Nat × List Nat)) : Prop where
  images : ∀ r ∈ runs, lowestImage ≤ r.2.2.2 ∧
    (r.2.2.2 + (r.2.1 - r.1) < 0xD800 ∨
      0xDFFF < r.2.2.2 ∧ r.2.2.2 + (r.2.1 - r.1) < 0x110000)
  expanded : ∀ e ∈ expansions, ∀ n ∈ e.2, lowestImage ≤ n ∧ n < 0xD800

theorem lower_hasImages : HasImages lowerRuns lowerExpansions :=
  ⟨by decide +kernel, by decide +kernel⟩

theorem fold_hasImages : HasImages foldRuns foldExpansions :=
  ⟨by decide +kernel, by decide +kernel⟩

section
variable {runs : CaseRuns} {expansions : List (Nat × List Nat)} (h : HasImages runs expansions)

include h in
theorem HasImages.image_eq_or (n : Nat) : runs.image n = n ∨ IsImage (runs.image n) := by
  refine (CaseRuns.image_eq_or_within runs n).imp id ?_
  rintro ⟨r, hr, hfrom, hto⟩
  obtain ⟨hlow, hvalid⟩ := h.images r hr
  refine ⟨Nat.le_trans hlow hfrom, ?_⟩
  unfold Nat.isValidChar
  omega

include h in
/-- A case mapping makes no small characters. -/
theorem HasImages.eq_of_mem {c d : Char} (small : d.toNat < lowestImage)
    (hd : d ∈ mapCase runs expansions c) : d = c := by
  unfold mapCase at hd
  split at hd
  · next codes hc =>
    obtain ⟨e, he, rfl⟩ := Option.map_eq_some_iff.1 hc
    obtain ⟨n, hn, rfl⟩ := List.mem_map.1 hd
    obtain ⟨hlow, hvalid⟩ := h.expanded e (List.mem_of_find?_eq_some he) n hn
    have hle := IsImage.le_toNat ⟨hlow, .inl hvalid⟩
    omega
  · rw [List.mem_singleton] at hd
    rcases h.image_eq_or c.toNat with hi | hi
    · rw [hd, hi, Char.ofNat_toNat]
    · rw [hd] at small
      have hle := hi.le_toNat
      omega

end

theorem eq_of_mem_lowerChar {c d : Char} (small : d.toNat < lowestImage)
    (h : d ∈ lowerChar c) : d = c :=
  lower_hasImages.eq_of_mem small h

theorem eq_of_mem_foldChar {c d : Char} (small : d.toNat < lowestImage)
    (h : d ∈ foldChar c) : d = c :=
  fold_hasImages.eq_of_mem small h

theorem mem_of_mem_lowerFrom {d : Char} (small : d.toNat < lowestImage)
    {before cs : List Char} (h : d ∈ lowerFrom before cs) : d ∈ cs := by
  induction cs generalizing before with
  | nil => exact h
  | cons c cs ih =>
    rw [lowerFrom] at h
    rcases List.mem_append.1 h with h | h
    · -- a capital sigma becomes a letter behind `a`
      split at h
      · next hc =>
        split at h
        all_goals
          rw [List.mem_singleton] at h
          rw [h] at small
          exact absurd small (by decide)
      · rw [eq_of_mem_lowerChar small h]
        exact List.mem_cons_self
    · exact List.mem_cons_of_mem _ (ih h)

/-- **Lower case makes no small characters.** -/
theorem mem_of_mem_lowerList {d : Char} {cs : List Char} (small : d.toNat < lowestImage)
    (h : d ∈ lowerList cs) : d ∈ cs :=
  mem_of_mem_lowerFrom small h

/-- **Folding makes no small characters.** -/
theorem mem_of_mem_fold {d : Char} {s : String} (small : d.toNat < lowestImage)
    (h : d ∈ (fold s).toList) : d ∈ s.toList := by
  rw [fold, String.toList_ofList] at h
  obtain ⟨c, hc, hd⟩ := List.mem_flatMap.1 h
  rw [eq_of_mem_foldChar small hd]
  exact hc

end Acceptance.Text
