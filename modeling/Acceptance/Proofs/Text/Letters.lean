import Acceptance.Proofs.Text.CaseRuns

/-!
# Letters without regard to case

Characters that are compared one by one are alike when their foldings are equal; beyond that, the
small and capital letters i with a dot and without one are all taken for the same letter.

    foldCodes (lowerRuns.image n) = foldCodes n                                 (foldCodes_lower)
    isVariant (lowCode (foldRuns.image n)) (lowCode n) = true                 (isVariant_lowCode)
    sameLetter a b = true ↔
      foldChar a = foldChar b ∨ a ∈ lettersI ∧ b ∈ lettersI                      (sameLetter_iff)
-/

namespace Acceptance.Text

/-! ## Algorithm -/

def foldCodes : Nat → List Nat := caseCodes foldRuns foldExpansions

/-- The code that stands for a character in a comparison of single letters. -/
def lowCode (n : Nat) : Nat := (caseCodes lowerRuns lowerExpansions n).headD 0

/-- The codes with the same upper case as a small letter. -/
def variants (n : Nat) : List Nat := (expansion? caseVariants n).getD []

def isVariant (m n : Nat) : Bool := Nat.beq m n || (variants m).contains n

/-- `foldCodes` in the form that is quick to look up. -/
def quickFold : Nat → List Nat := quickCodes foldRuns foldExpansions

/-- `lowCode` in the same form. -/
def quickLow (n : Nat) : Nat := (quickCodes lowerRuns lowerExpansions n).headD 0

/-- The letter i, small and capital, with a dot and without one. -/
def lettersI : List Char := ['I', 'i', 'İ', 'ı']

def codesI : List Nat := lettersI.map Char.toNat

/-- The codes of the two small ones. -/
def smallCodesI : List Nat := [0x69, 0x131]

/-- Whether a relation holds of any two entries of a list. -/
def allPairs {α : Type} (p : α → α → Bool) : List α → Bool
  | [] => true
  | a :: rest => rest.all (p a) && allPairs p rest

theorem rel_of_allPairs {α : Type} {p : α → α → Bool} {l : List α} (h : allPairs p l = true)
    {a b : α} (ha : a ∈ l) (hb : b ∈ l) : a = b ∨ p a b = true ∨ p b a = true := by
  induction l with
  | nil => cases ha
  | cons c l ih =>
    rw [allPairs, Bool.and_eq_true, List.all_eq_true] at h
    rcases List.mem_cons.1 ha with rfl | hal <;> rcases List.mem_cons.1 hb with rfl | hbl
    · exact .inl rfl
    · exact .inr (.inl (h.1 b hbl))
    · exact .inr (.inr (h.1 a hal))
    · exact ih h.2 hal hbl

/-! ## Tables -/

/-- What the tables of lower case, folding and variants are found to have in common. -/
structure TablesAgree : Prop where
  lowered : agreesAlong foldRuns foldExpansions (fun m n => quickFold m == quickFold n)
    lowerRuns = true
  folded : agreesAlong lowerRuns lowerExpansions (fun m n => isVariant (quickLow n) (quickLow m))
    foldRuns = true
  smallI : ∀ r ∈ lowerRuns, ∀ s ∈ smallCodesI, r.2.2.2 ≤ s → s - r.2.2.2 ≤ r.2.1 - r.1 →
    (s - r.2.2.2) % r.2.2.1 = 0 → r.1 + (s - r.2.2.2) ∈ codesI
  allI : ∀ m ∈ codesI, ∀ n ∈ codesI, isVariant (lowCode m) (lowCode n) = true
  exchanged : (caseVariants.all fun e => e.2.all fun v =>
    isVariant v e.1 && e.2.all fun w => isVariant v w) = true
  variants : ∀ e ∈ caseVariants, ∀ v ∈ e.2, quickFold e.1 = quickFold v ∨
    e.1 ∈ smallCodesI ∧ v ∈ smallCodesI
  longer : ∀ e ∈ foldExpansions, 1 < e.2.length
  sameCodes : allPairs (fun e f =>
    bif Nat.beq (e.2.headD 0) (f.2.headD 0) && e.2 == f.2 then
      isVariant (quickLow e.1) (quickLow f.1)
    else true) foldExpansions = true

theorem tables_agree : TablesAgree where
  lowered := by decide +kernel
  folded := by decide +kernel
  smallI := by decide +kernel
  allI := by decide +kernel
  exchanged := by decide +kernel
  variants := by decide +kernel
  longer := by decide +kernel
  sameCodes := by decide +kernel

/-! ## Folding and lower case -/

theorem quickFold_eq (n : Nat) : quickFold n = foldCodes n := quickCodes_eq n

theorem quickLow_eq (n : Nat) : quickLow n = lowCode n := by rw [quickLow, quickCodes_eq, lowCode]

/-- A character and its lower case have the same folding. -/
theorem foldCodes_lower (n : Nat) : foldCodes (lowerRuns.image n) = foldCodes n := by
  refine (rel_image_of_agreesAlong (R := fun m n => foldCodes m = foldCodes n)
    tables_agree.lowered (fun _ _ h => h) ?_ n).symm
  intro m n h
  rwa [beq_iff_eq, quickFold_eq, quickFold_eq] at h

/-- The folding of a character, where it is a single one, is a variant of its lower case. -/
theorem isVariant_lowCode (n : Nat) :
    isVariant (lowCode (foldRuns.image n)) (lowCode n) = true := by
  refine rel_image_of_agreesAlong (R := fun m n => isVariant (lowCode n) (lowCode m) = true)
    tables_agree.folded ?_ ?_ n
  · intro m n h
    simp [isVariant, lowCode, h]
  · intro m n h
    rwa [quickLow_eq, quickLow_eq] at h

theorem lowCode_eq (n : Nat) : n = 0x130 ∨ lowCode n = lowerRuns.image n := by
  unfold lowCode caseCodes
  cases hn : expansion? lowerExpansions n with
  | none => exact .inr rfl
  | some codes =>
    have hentry := mem_of_expansion? hn
    rw [lowerExpansions, List.mem_singleton] at hentry
    exact .inl (congrArg Prod.fst hentry)

/-- The characters whose lower case is a small i, with a dot or without one. -/
theorem mem_of_lowCode_mem {n : Nat} (h : lowCode n ∈ smallCodesI) : n ∈ codesI := by
  rcases lowCode_eq n with rfl | hn
  · decide
  · have hsmall : ∀ s ∈ smallCodesI, s ∈ codesI := by decide
    rw [hn] at h
    rcases CaseRuns.image_cases lowerRuns n with himage | ⟨r, hr, k, hk, hstep, rfl, himage⟩
    · rw [himage] at h
      exact hsmall n h
    · rw [himage] at h
      have hcode := tables_agree.smallI r hr _ h (Nat.le_add_right _ k)
      rw [Nat.add_sub_cancel_left] at hcode
      exact hcode hk hstep

/-! ## Variants -/

theorem isVariant_iff {m n : Nat} :
    isVariant m n = true ↔ m = n ∨ ∃ codes, expansion? caseVariants m = some codes ∧ n ∈ codes := by
  rw [isVariant, Bool.or_eq_true, Nat.beq_eq, variants, List.contains_iff_mem]
  cases expansion? caseVariants m <;> simp

theorem isVariant_refl (n : Nat) : isVariant n n = true := isVariant_iff.2 (.inl rfl)

/-- The variants of a code are variants of each other. -/
theorem isVariant_of_isVariant {l m n : Nat} (hm : isVariant l m = true)
    (hn : isVariant l n = true) : isVariant m n = true := by
  rcases isVariant_iff.1 hm with rfl | ⟨codes, hcodes, hmem⟩
  · exact hn
  · have hentry := List.all_eq_true.1 tables_agree.exchanged _ (mem_of_expansion? hcodes)
    have hm := List.all_eq_true.1 hentry m hmem
    rw [Bool.and_eq_true, List.all_eq_true] at hm
    rcases isVariant_iff.1 hn with rfl | ⟨codes', hcodes', hmem'⟩
    · exact hm.1
    · rw [hcodes] at hcodes'
      obtain rfl := Option.some.inj hcodes'
      exact hm.2 n hmem'

/-- Variants have the same folding, the two small letters i aside. -/
theorem foldCodes_of_isVariant {m n : Nat} (h : isVariant m n = true) :
    foldCodes m = foldCodes n ∨ m ∈ smallCodesI ∧ n ∈ smallCodesI := by
  have hvariants := tables_agree.variants
  simp only [quickFold_eq] at hvariants
  rcases isVariant_iff.1 h with rfl | ⟨codes, hcodes, hmem⟩
  · exact .inl rfl
  · exact hvariants _ (mem_of_expansion? hcodes) n hmem

/-! ## Letters -/

theorem foldCodes_eq_or_of_isVariant {m n : Nat} (h : isVariant (lowCode m) (lowCode n) = true) :
    foldCodes m = foldCodes n ∨ m ∈ codesI ∧ n ∈ codesI := by
  -- a capital i with a dot is the one character that does not fold as its lower case
  have hdotted : ∀ n, isVariant (lowCode 0x130) (lowCode n) = true → n ∈ codesI := by
    intro n hn
    have hlow : lowCode 0x130 = 0x69 := by decide
    have hvariants : expansion? caseVariants 0x69 = some [0x131] := by decide
    rw [hlow, isVariant_iff, hvariants] at hn
    refine mem_of_lowCode_mem ?_
    rcases hn with heq | ⟨codes, hcodes, hmem⟩
    · rw [← heq]
      decide
    · obtain rfl := Option.some.inj hcodes
      exact List.mem_cons_of_mem _ hmem
  have hsymm := isVariant_of_isVariant h (isVariant_refl _)
  rcases foldCodes_of_isVariant h with hcodes | ⟨hm, hn⟩
  · rcases lowCode_eq m with rfl | hm
    · exact .inr ⟨by decide, hdotted n h⟩
    · rcases lowCode_eq n with rfl | hn
      · exact .inr ⟨hdotted m hsymm, by decide⟩
      · rw [hm, hn, foldCodes_lower, foldCodes_lower] at hcodes
        exact .inl hcodes
  · exact .inr ⟨mem_of_lowCode_mem hm, mem_of_lowCode_mem hn⟩

/-- Foldings that are equal are both of one character or both from the table of longer ones. -/
theorem isVariant_of_foldCodes_eq {m n : Nat} (h : foldCodes m = foldCodes n) :
    isVariant (lowCode m) (lowCode n) = true := by
  unfold foldCodes caseCodes at h
  cases hm : expansion? foldExpansions m with
  | none =>
    cases hn : expansion? foldExpansions n with
    | none =>
      rw [hm, hn] at h
      have himage : foldRuns.image m = foldRuns.image n := List.singleton_inj.1 h
      refine isVariant_of_isVariant (isVariant_lowCode m) ?_
      rw [himage]
      exact isVariant_lowCode n
    | some codes =>
      rw [hm, hn] at h
      have hlength : 1 < codes.length := tables_agree.longer _ (mem_of_expansion? hn)
      rw [← show [foldRuns.image m] = codes from h] at hlength
      exact absurd hlength (Nat.lt_irrefl 1)
  | some codes =>
    have hlength : 1 < codes.length := tables_agree.longer _ (mem_of_expansion? hm)
    cases hn : expansion? foldExpansions n with
    | none =>
      rw [hm, hn] at h
      rw [show codes = [foldRuns.image n] from h] at hlength
      exact absurd hlength (Nat.lt_irrefl 1)
    | some codes' =>
      rw [hm, hn] at h
      obtain rfl : codes = codes' := h
      have hpair := rel_of_allPairs tables_agree.sameCodes (mem_of_expansion? hm)
        (mem_of_expansion? hn)
      simp only [Nat.beq_refl, BEq.rfl, Bool.and_self, cond_true, quickLow_eq, Prod.mk.injEq,
        and_true] at hpair
      rcases hpair with rfl | hvariant | hvariant
      · exact isVariant_refl _
      · exact hvariant
      · exact isVariant_of_isVariant hvariant (isVariant_refl _)

/-! ## Characters -/

section
variable {runs : CaseRuns} {expansions : List (Nat × List Nat)}

theorem mapCase_eq (c : Char) :
    mapCase runs expansions c = (caseCodes runs expansions c.toNat).map Char.ofNat := by
  unfold mapCase caseCodes
  split
  · next codes h =>
    rw [h]
    rfl
  · next h =>
    rw [h]
    rfl

/-- The codes of a character are codes of characters. -/
theorem map_toNat_mapCase (h : HasImages runs expansions) (c : Char) :
    (mapCase runs expansions c).map Char.toNat = caseCodes runs expansions c.toNat := by
  have hvalid : ∀ n ∈ caseCodes runs expansions c.toNat, n.isValidChar := by
    intro n hn
    unfold caseCodes at hn
    cases hc : expansion? expansions c.toNat with
    | none =>
      rw [hc, Option.getD_none, List.mem_singleton] at hn
      rcases h.image_eq_or c.toNat with himage | himage
      · rw [hn, himage]
        exact c.valid
      · rw [hn]
        exact himage.2
    | some codes =>
      rw [hc] at hn
      exact .inl (h.expanded _ (mem_of_expansion? hc) n hn).2
  rw [mapCase_eq, List.map_map]
  conv => rhs; rw [← List.map_id (caseCodes runs expansions c.toNat)]
  refine List.map_congr_left fun n hn => ?_
  rw [Function.comp_apply, Char.ofNat, dif_pos (hvalid n hn)]
  rfl

end

theorem map_toNat_foldChar (c : Char) : (foldChar c).map Char.toNat = foldCodes c.toNat :=
  map_toNat_mapCase fold_hasImages c

theorem toNat_simpleLower (c : Char) : (simpleLower c).toNat = lowCode c.toNat := by
  have hcodes : (lowerChar c).map Char.toNat = caseCodes lowerRuns lowerExpansions c.toNat :=
    map_toNat_mapCase lower_hasImages c
  have hne : caseCodes lowerRuns lowerExpansions c.toNat ≠ [] :=
    caseCodes_ne_nil (by decide) c.toNat
  unfold simpleLower lowCode
  rw [← hcodes] at hne ⊢
  split
  · next h =>
    rw [h]
    rfl
  · next h =>
    rw [h] at hne
    exact absurd rfl hne

theorem foldChar_eq_iff {a b : Char} :
    foldChar a = foldChar b ↔ foldCodes a.toNat = foldCodes b.toNat := by
  rw [← map_toNat_foldChar, ← map_toNat_foldChar]
  exact (List.map_injective_iff.2 fun _ _ => Char.toNat_inj.1).eq_iff.symm

theorem sameLetter_eq (a b : Char) :
    sameLetter a b = isVariant (lowCode a.toNat) (lowCode b.toNat) := by
  have hbeq : (simpleLower a == simpleLower b) =
      Nat.beq (simpleLower a).toNat (simpleLower b).toNat := by
    rw [Bool.eq_iff_iff, beq_iff_eq, Nat.beq_eq, Char.toNat_inj]
  rw [← toNat_simpleLower, ← toNat_simpleLower, isVariant, ← hbeq]
  rfl

/-- **Letters that agree one by one.**  Their foldings are equal, or both are the letter i, with a
dot or without one. -/
theorem sameLetter_iff {a b : Char} : sameLetter a b = true ↔
    foldChar a = foldChar b ∨ a ∈ lettersI ∧ b ∈ lettersI := by
  have hmem : ∀ c : Char, c.toNat ∈ codesI ↔ c ∈ lettersI := fun _ =>
    List.mem_map_of_injective fun _ _ => Char.toNat_inj.1
  rw [sameLetter_eq, foldChar_eq_iff, ← hmem, ← hmem]
  constructor
  · exact foldCodes_eq_or_of_isVariant
  · rintro (hcodes | ⟨ha, hb⟩)
    · exact isVariant_of_foldCodes_eq hcodes
    · exact tables_agree.allI _ ha _ hb

end Acceptance.Text
