import Acceptance.Proofs.Text.Letters
import Acceptance.Text.Identifier

/-!
# Texts in lower case

A case mapping to lower case leads to characters that it leaves as they are, so a text in lower
case is its own lower case.  It leads from characters of identifiers to characters of identifiers,
and to an underscore from an underscore alone; so it moves no underscore.

    d ∈ lowerList cs → lowerChar d = [d]                               (lowerChar_of_mem_lowerList)
    lowerList (lowerList cs) = lowerList cs                                        (lowerList_twice)
    ['_', '_'] <:+: lowerList cs → ['_', '_'] <:+: cs                        (doubled_of_lowerList)
-/

namespace Acceptance.Text

/-! ## Algorithm -/

/-- Whether one run holds all code points from `lo` to `hi`. -/
def CodeRanges.covers : CodeRanges → Nat → Nat → Bool
  | [], _, _ => false
  | (a, b) :: rest, lo, hi => Nat.ble a lo && (Nat.ble hi b || Nat.blt b lo && covers rest lo hi)

/-- Whether no run holds a code point from `lo` to `hi`. -/
def CodeRanges.misses : CodeRanges → Nat → Nat → Bool
  | [], _, _ => true
  | (a, b) :: rest, lo, hi => Nat.blt hi a || Nat.blt b lo && misses rest lo hi

/-- Whether a run of a mapping leads into a set, or starts from outside of it. -/
def CodeRanges.keptAlong (set : CodeRanges) (r : Nat × Nat × Nat × Nat) : Bool :=
  set.covers r.2.2.2 (r.2.2.2 + (r.2.1 - r.1)) || set.misses r.1 (r.1 + (r.2.1 - r.1))

/-! ## Runs and sets -/

section
variable {set : CodeRanges} {lo hi n : Nat}

theorem contains_of_covers (h : set.covers lo hi = true) (hlo : lo ≤ n) (hhi : n ≤ hi) :
    set.contains n = true := by
  induction set with
  | nil => cases h
  | cons r rest ih =>
    obtain ⟨a, b⟩ := r
    simp only [CodeRanges.covers, Bool.and_eq_true, Bool.or_eq_true, Nat.ble_eq, Nat.blt_eq] at h
    obtain ⟨hfirst, hlast⟩ := h
    rw [CodeRanges.contains, if_neg (by omega)]
    rcases hlast with hlast | ⟨hbehind, hrest⟩
    · rw [if_pos (by omega)]
    · rw [if_neg (by omega)]
      exact ih hrest

theorem contains_of_misses (h : set.misses lo hi = true) (hlo : lo ≤ n) (hhi : n ≤ hi) :
    set.contains n = false := by
  induction set with
  | nil => rfl
  | cons r rest ih =>
    obtain ⟨a, b⟩ := r
    simp only [CodeRanges.misses, Bool.and_eq_true, Bool.or_eq_true, Nat.blt_eq] at h
    rw [CodeRanges.contains]
    by_cases hn : n < a
    · rw [if_pos hn]
    · rcases h with hbefore | ⟨hbehind, hrest⟩
      · exact absurd hn (by omega)
      · rw [if_neg hn, if_neg (by omega)]
        exact ih hrest

theorem contains_of_keptAlong {r : Nat × Nat × Nat × Nat} {k : Nat} (h : set.keptAlong r = true)
    (hk : k ≤ r.2.1 - r.1) (hn : set.contains (r.1 + k) = true) :
    set.contains (r.2.2.2 + k) = true := by
  rcases Bool.or_eq_true_iff.1 h with hcovers | hmisses
  · exact contains_of_covers hcovers (by omega) (by omega)
  · rw [contains_of_misses hmisses (by omega) (by omega)] at hn
    cases hn

end

/-! ## Tables -/

/-- What the tables of lower case are found to keep. -/
structure LowerTables : Prop where
  /-- What a run leads to has no run and no entry. -/
  fixed : (lowerRuns.all fun r => apart lowerRuns.points (sources (turned r)) &&
    apart (keys lowerExpansions) (sources (turned r))) = true
  parts : (lowerRuns.all continueRanges.keptAlong) = true

theorem lowerTables : LowerTables where
  fixed := by decide +kernel
  parts := by decide +kernel

def lowerCodes (n : Nat) : List Nat := caseCodes lowerRuns lowerExpansions n

/-- A code of the one entry, or the image of the code. -/
theorem mem_lowerCodes {m n : Nat} (h : m ∈ lowerCodes n) :
    n = 0x130 ∧ (m = 0x69 ∨ m = 0x307) ∨
      expansion? lowerExpansions n = none ∧ m = lowerRuns.image n := by
  unfold lowerCodes caseCodes at h
  cases hn : expansion? lowerExpansions n with
  | none =>
    rw [hn, Option.getD_none, List.mem_singleton] at h
    exact .inr ⟨rfl, h⟩
  | some codes =>
    have hentry := mem_of_expansion? hn
    rw [lowerExpansions, List.mem_singleton, Prod.mk.injEq] at hentry
    obtain ⟨rfl, rfl⟩ := hentry
    rw [hn, Option.getD_some] at h
    exact .inl ⟨rfl, by simpa using h⟩

theorem lowerCodes_of_mem {m n : Nat} (h : m ∈ lowerCodes n) : lowerCodes m = [m] := by
  rcases mem_lowerCodes h with ⟨-, rfl | rfl⟩ | ⟨hnone, rfl⟩
  · decide
  · decide
  · rcases CaseRuns.image_cases lowerRuns n with himage | ⟨r, hr, k, hk, hstep, -, himage⟩
    · rw [himage, lowerCodes, caseCodes, hnone, Option.getD_none, himage]
    · have hfixed := List.all_eq_true.1 lowerTables.fixed r hr
      rw [Bool.and_eq_true] at hfixed
      have hback : k ≤ r.2.2.2 + (r.2.1 - r.1) - r.2.2.2 := by omega
      have hbit : (sources (turned r)).testBit (r.2.2.2 + k) = true := testBit_sources hback hstep
      rw [himage, lowerCodes, caseCodes, expansion?_eq_none (testBit_of_apart hfixed.2 hbit),
        Option.getD_none, image_eq_self (testBit_of_apart hfixed.1 hbit)]

theorem contains_of_mem_lowerCodes {m n : Nat} (h : m ∈ lowerCodes n)
    (hn : continueRanges.contains n = true) : continueRanges.contains m = true := by
  rcases mem_lowerCodes h with ⟨-, rfl | rfl⟩ | ⟨-, rfl⟩
  · decide +kernel
  · decide +kernel
  · rcases CaseRuns.image_cases lowerRuns n with himage | ⟨r, hr, k, hk, -, rfl, himage⟩
    · rw [himage]
      exact hn
    · rw [himage]
      exact contains_of_keptAlong (List.all_eq_true.1 lowerTables.parts r hr) hk hn

/-! ## Characters -/

section
variable {c d : Char}

theorem map_toNat_lowerChar (c : Char) : (lowerChar c).map Char.toNat = lowerCodes c.toNat :=
  map_toNat_mapCase lower_hasImages c

theorem toNat_mem_lowerCodes (h : d ∈ lowerChar c) : d.toNat ∈ lowerCodes c.toNat := by
  rw [← map_toNat_lowerChar]
  exact List.mem_map_of_mem h

theorem lowerChar_of_mem_lowerChar (h : d ∈ lowerChar c) : lowerChar d = [d] := by
  have hcodes : (lowerChar d).map Char.toNat = [d].map Char.toNat := by
    rw [map_toNat_lowerChar, lowerCodes_of_mem (toNat_mem_lowerCodes h), List.map_singleton]
  exact List.map_injective_iff.2 (fun _ _ => Char.toNat_inj.1) hcodes

theorem isIdentifierPart_of_mem_lowerChar (h : d ∈ lowerChar c) (hc : isIdentifierPart c = true) :
    isIdentifierPart d = true :=
  contains_of_mem_lowerCodes (toNat_mem_lowerCodes h) hc

theorem lowerChar_ne_nil (c : Char) : lowerChar c ≠ [] := by
  intro h
  have hcodes := map_toNat_lowerChar c
  rw [h] at hcodes
  exact caseCodes_ne_nil (by decide) c.toNat hcodes.symm

/-- A character that is its own lower case is no capital. -/
theorem isUpper_of_lowerChar (h : lowerChar c = [c]) : c.isUpper = false := by
  have hcapitals : ∀ k, k < 26 → lowerCodes (65 + k) ≠ [65 + k] := by decide
  cases hc : c.isUpper with
  | false => rfl
  | true =>
    have hcodes := map_toNat_lowerChar c
    obtain ⟨hlow, hhigh⟩ : 65 ≤ c.val ∧ c.val ≤ 90 := of_decide_eq_true hc
    have hcode : 65 ≤ c.toNat ∧ c.toNat ≤ 90 :=
      ⟨UInt32.le_iff_toNat_le.1 hlow, UInt32.le_iff_toNat_le.1 hhigh⟩
    obtain ⟨k, hk⟩ := Nat.exists_eq_add_of_le hcode.1
    rw [h, List.map_singleton, hk] at hcodes
    exact absurd hcodes.symm (hcapitals k (by omega))

end

/-! ## Texts -/

/-- The lower case of a character in its place. -/
def lowerPiece (before rest : List Char) (c : Char) : List Char :=
  if c = 'Σ' then (if beginsCased before && !beginsCased rest then ['ς'] else ['σ'])
  else lowerChar c

theorem lowerFrom_cons (before rest : List Char) (c : Char) :
    lowerFrom before (c :: rest) = lowerPiece before rest c ++ lowerFrom (c :: before) rest := rfl

section
variable {before rest cs : List Char} {c d : Char}

theorem lowerPiece_cases (before rest : List Char) (c : Char) :
    c = 'Σ' ∧ lowerPiece before rest c = ['ς'] ∨ c = 'Σ' ∧ lowerPiece before rest c = ['σ'] ∨
      lowerPiece before rest c = lowerChar c := by
  unfold lowerPiece
  by_cases hc : c = 'Σ'
  · rw [if_pos hc]
    by_cases hfinal : (beginsCased before && !beginsCased rest) = true
    · exact .inl ⟨hc, if_pos hfinal⟩
    · exact .inr (.inl ⟨hc, if_neg hfinal⟩)
  · exact .inr (.inr (if_neg hc))

theorem lowerPiece_ne_nil (before rest : List Char) (c : Char) : lowerPiece before rest c ≠ [] := by
  rcases lowerPiece_cases before rest c with ⟨-, h⟩ | ⟨-, h⟩ | h
  · rw [h]
    exact List.cons_ne_nil _ _
  · rw [h]
    exact List.cons_ne_nil _ _
  · rw [h]
    exact lowerChar_ne_nil c

theorem lowerChar_of_mem_lowerPiece (h : d ∈ lowerPiece before rest c) : lowerChar d = [d] := by
  rcases lowerPiece_cases before rest c with ⟨-, hc⟩ | ⟨-, hc⟩ | hc
  · rw [hc, List.mem_singleton] at h
    rw [h]
    decide
  · rw [hc, List.mem_singleton] at h
    rw [h]
    decide
  · rw [hc] at h
    exact lowerChar_of_mem_lowerChar h

theorem isIdentifierPart_of_mem_lowerPiece (h : d ∈ lowerPiece before rest c)
    (hc : isIdentifierPart c = true) : isIdentifierPart d = true := by
  rcases lowerPiece_cases before rest c with ⟨-, hpiece⟩ | ⟨-, hpiece⟩ | hpiece
  · rw [hpiece, List.mem_singleton] at h
    rw [h]
    decide +kernel
  · rw [hpiece, List.mem_singleton] at h
    rw [h]
    decide +kernel
  · rw [hpiece] at h
    exact isIdentifierPart_of_mem_lowerChar h hc

/-- Each character of a text in lower case comes from one of the text. -/
theorem exists_piece_of_mem (h : d ∈ lowerFrom before cs) :
    ∃ c ∈ cs, ∃ before' rest, d ∈ lowerPiece before' rest c := by
  induction cs generalizing before with
  | nil => cases h
  | cons c cs ih =>
    rw [lowerFrom_cons] at h
    rcases List.mem_append.1 h with h | h
    · exact ⟨c, List.mem_cons_self, before, cs, h⟩
    · obtain ⟨c', hc', hpiece⟩ := ih h
      exact ⟨c', List.mem_cons_of_mem _ hc', hpiece⟩

theorem lowerChar_of_mem_lowerList (h : d ∈ lowerList cs) : lowerChar d = [d] := by
  obtain ⟨c, -, before, rest, hpiece⟩ := exists_piece_of_mem h
  exact lowerChar_of_mem_lowerPiece hpiece

theorem isIdentifierPart_of_mem_lowerList (h : d ∈ lowerList cs)
    (hcs : ∀ c ∈ cs, isIdentifierPart c = true) : isIdentifierPart d = true := by
  obtain ⟨c, hc, before, rest, hpiece⟩ := exists_piece_of_mem h
  exact isIdentifierPart_of_mem_lowerPiece hpiece (hcs c hc)

theorem lowerFrom_eq_self (h : ∀ c ∈ cs, lowerChar c = [c]) : lowerFrom before cs = cs := by
  induction cs generalizing before with
  | nil => rfl
  | cons c cs ih =>
    have hc : lowerChar c = [c] := h c List.mem_cons_self
    have hsigma : c ≠ 'Σ' := by
      rintro rfl
      exact absurd hc (by decide)
    rw [lowerFrom_cons, lowerPiece, if_neg hsigma, hc,
      ih fun d hd => h d (List.mem_cons_of_mem _ hd), List.singleton_append]

/-- **Lower case once is lower case.** -/
theorem lowerList_twice (cs : List Char) : lowerList (lowerList cs) = lowerList cs :=
  lowerFrom_eq_self fun _ => lowerChar_of_mem_lowerList

end

/-! ## Underscores -/

/-- Two underscores in a row. -/
def doubled : List Char := ['_', '_']

section
variable {before rest cs : List Char} {c : Char}

theorem eq_of_mem_lowerPiece (h : '_' ∈ lowerPiece before rest c) : c = '_' := by
  rcases lowerPiece_cases before rest c with ⟨-, hpiece⟩ | ⟨-, hpiece⟩ | hpiece
  · rw [hpiece] at h
    exact absurd h (by decide)
  · rw [hpiece] at h
    exact absurd h (by decide)
  · rw [hpiece] at h
    exact (eq_of_mem_lowerChar (by decide) h).symm

theorem lowerPiece_underscore : lowerPiece before rest '_' = ['_'] := by
  rw [lowerPiece, if_neg (by decide)]
  decide

theorem head?_lowerFrom (h : (lowerFrom before cs).head? = some '_') : cs.head? = some '_' := by
  cases cs with
  | nil => exact h
  | cons c cs =>
    rw [lowerFrom_cons, List.head?_append_of_ne_nil _ (lowerPiece_ne_nil _ _ _)] at h
    rw [eq_of_mem_lowerPiece (List.mem_of_head? h), List.head?_cons]

theorem lowerFrom_ne_nil (h : cs ≠ []) : lowerFrom before cs ≠ [] := by
  cases cs with
  | nil => exact absurd rfl h
  | cons c cs =>
    rw [lowerFrom_cons]
    exact List.append_ne_nil_of_left_ne_nil (lowerPiece_ne_nil _ _ _) _

theorem getLast?_lowerFrom (h : (lowerFrom before cs).getLast? = some '_') :
    cs.getLast? = some '_' := by
  induction cs generalizing before with
  | nil => exact h
  | cons c cs ih =>
    rw [lowerFrom_cons] at h
    by_cases hcs : cs = []
    · subst hcs
      rw [lowerFrom, List.append_nil] at h
      rw [eq_of_mem_lowerPiece (List.mem_of_getLast? h), List.getLast?_singleton]
    · rw [List.getLast?_append_of_ne_nil _ (lowerFrom_ne_nil hcs)] at h
      rw [List.getLast?_cons_of_ne_nil hcs]
      exact ih h

/-- What begins with an underscore does not begin in a part without any. -/
theorem doubled_of_append {ds : List Char} (h : '_' ∉ ds) (hd : doubled <:+: ds ++ cs) :
    doubled <:+: cs := by
  induction ds with
  | nil => exact hd
  | cons d ds ih =>
    rw [List.mem_cons, not_or] at h
    rw [List.cons_append, List.infix_cons_iff] at hd
    rcases hd with hprefix | hinfix
    · exact absurd (List.cons_prefix_cons.1 hprefix).1 h.1
    · exact ih h.2 hinfix

/-- Lower case puts no underscores together. -/
theorem doubled_of_lowerFrom (h : doubled <:+: lowerFrom before cs) : doubled <:+: cs := by
  induction cs generalizing before with
  | nil => exact h
  | cons c cs ih =>
    rw [lowerFrom_cons] at h
    by_cases hc : c = '_'
    · subst hc
      rw [lowerPiece_underscore, List.singleton_append, List.infix_cons_iff] at h
      rw [List.infix_cons_iff]
      rcases h with hprefix | hinfix
      · obtain ⟨behind, hbehind⟩ := (List.cons_prefix_cons.1 hprefix).2
        have hhead : (lowerFrom ('_' :: before) cs).head? = some '_' := by
          rw [← hbehind]
          rfl
        obtain ⟨tail, rfl⟩ := List.head?_eq_some_iff.1 (head?_lowerFrom hhead)
        exact .inl ⟨tail, rfl⟩
      · exact .inr (ih hinfix)
    · have hpiece : '_' ∉ lowerPiece before cs c := fun hmem => hc (eq_of_mem_lowerPiece hmem)
      exact List.infix_cons_iff.2 (.inr (ih (doubled_of_append hpiece h)))

theorem doubled_of_lowerList (h : doubled <:+: lowerList cs) : doubled <:+: cs :=
  doubled_of_lowerFrom h

end

end Acceptance.Text
