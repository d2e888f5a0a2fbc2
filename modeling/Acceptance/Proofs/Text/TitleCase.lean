import Acceptance.Proofs.Text.Lowered
import Acceptance.Step.Definition

/-!
# Capitalized texts

A capitalized text has its first character in title case and the others in lower case.  Title case
is upper case but for the letters of two signs and some scripts.  Of the characters whose title
case begins like a word for a kind of steps, only the capital and its small letter have no sign
behind it; so a text is such a word when capitalized where both agree in lower case.

    capitalized cs = k.word.toList ↔ lowerList cs = lowerList k.word.toList
                                                                        (capitalized_eq_word_iff)
-/

namespace Acceptance.Text

/-! ## Algorithm -/

/-- Characters that are their own title case, and whose upper case is another one. -/
def ownTitles : List Nat :=
  List.range' 0x10D0 43 ++ List.range' 0x10FD 3 ++ List.range' 0x1F88 8 ++ List.range' 0x1F98 8 ++
    List.range' 0x1FA8 8 ++ [0x1C5, 0x1C8, 0x1CB, 0x1F2, 0x1FBC, 0x1FCC, 0x1FFC]

/-- Small letters whose title case is the character eight places on. -/
def iotaLetters : List Nat :=
  List.range' 0x1F80 8 ++ List.range' 0x1F90 8 ++ List.range' 0x1FA0 8

/-- Characters whose title case is not their upper case. -/
def titleExpansions : List (Nat × List Nat) :=
  ownTitles.map (fun n => (n, [n])) ++ iotaLetters.map (fun n => (n, [n + 8])) ++ [
    (0x1C4, [0x1C5]), (0x1C6, [0x1C5]), (0x1C7, [0x1C8]), (0x1C9, [0x1C8]), (0x1CA, [0x1CB]),
    (0x1CC, [0x1CB]), (0x1F1, [0x1F2]), (0x1F3, [0x1F2]), (0x1FB3, [0x1FBC]), (0x1FC3, [0x1FCC]),
    (0x1FF3, [0x1FFC]), (0xDF, [0x53, 0x73]), (0x587, [0x535, 0x582]), (0x1FB2, [0x1FBA, 0x345]),
    (0x1FB4, [0x386, 0x345]), (0x1FB7, [0x391, 0x342, 0x345]), (0x1FC2, [0x1FCA, 0x345]),
    (0x1FC4, [0x389, 0x345]), (0x1FC7, [0x397, 0x342, 0x345]), (0x1FF2, [0x1FFA, 0x345]),
    (0x1FF4, [0x38F, 0x345]), (0x1FF7, [0x3A9, 0x342, 0x345]), (0xFB00, [0x46, 0x66]),
    (0xFB01, [0x46, 0x69]), (0xFB02, [0x46, 0x6C]), (0xFB03, [0x46, 0x66, 0x69]),
    (0xFB04, [0x46, 0x66, 0x6C]), (0xFB05, [0x53, 0x74]), (0xFB06, [0x53, 0x74]),
    (0xFB13, [0x544, 0x576]), (0xFB14, [0x544, 0x565]), (0xFB15, [0x544, 0x56B]),
    (0xFB16, [0x54E, 0x576]), (0xFB17, [0x544, 0x56D])]

/-- Title case of a character. -/
def titleChar (c : Char) : List Char :=
  match expansion? titleExpansions c.toNat with
  | some codes => codes.map Char.ofNat
  | none => upperChar c

/-- A text with its first character in title case and the others in lower case. -/
def capitalized : List Char → List Char
  | [] => []
  | c :: rest => titleChar c ++ lowerFrom [c] rest

/-- Whether every run that leads to a code leads there from one of the codes. -/
def CaseRuns.leadsFrom (runs : CaseRuns) (codes : List Nat) (n : Nat) : Bool :=
  runs.all fun r => !(r.2.2.2 ≤ n && n - r.2.2.2 ≤ r.2.1 - r.1) ||
    codes.contains (r.1 + (n - r.2.2.2))

/-! ## First letters -/

/-- The first letters of the words for the kinds of steps, with their small letters. -/
def initials : List (Char × Char) := [('G', 'g'), ('W', 'w'), ('T', 't')]

/-- Signs above letters that have no capital of their own. -/
def signs : List Char := ['\u0308', '\u030A']

/-- What the tables are found to hold of the first letters. -/
structure InitialTables : Prop where
  upper : (initials.all fun p => upperRuns.leadsFrom [p.2.toNat] p.1.toNat) = true
  lower : (initials.all fun p => lowerRuns.leadsFrom [p.1.toNat] p.2.toNat) = true
  title : ∀ p ∈ initials, ∀ e ∈ titleExpansions, e.2.head? ≠ some p.1.toNat
  signed : ∀ p ∈ initials, ∀ e ∈ upperExpansions, e.2.head? = some p.1.toNat →
    e.2 ∈ signs.map fun s => [p.1.toNat, s.toNat]

theorem initialTables : InitialTables where
  upper := by decide +kernel
  lower := by decide +kernel
  title := by decide +kernel
  signed := by decide +kernel

theorem mem_of_image_eq {runs : CaseRuns} {codes : List Nat} {m n : Nat}
    (h : runs.leadsFrom codes m = true) (himage : runs.image n = m) : n = m ∨ n ∈ codes := by
  rcases CaseRuns.image_cases runs n with hself | ⟨r, hr, k, hk, -, hn, hmoved⟩
  · exact .inl (hself.symm.trans himage)
  · right
    rw [himage] at hmoved
    have hrun := List.all_eq_true.1 h r hr
    have hk' : m - r.2.2.2 = k := by omega
    have hle : r.2.2.2 ≤ m := by omega
    rw [hk', decide_eq_true hle, decide_eq_true hk, ← hn] at hrun
    simpa using hrun

/-- Only the null character stands for codes that are none of a character. -/
theorem eq_toNat_of_ofNat {n : Nat} {c : Char} (h : Char.ofNat n = c) (hc : c ≠ '\x00') :
    n = c.toNat := by
  by_cases hn : n.isValidChar
  · rw [← h, Char.ofNat, dif_pos hn]
    rfl
  · rw [Char.ofNat, dif_neg hn] at h
    exact absurd h.symm hc

section
variable {p : Char × Char} (hp : p ∈ initials) {c : Char}

include hp

theorem initial_ne_null : p.1 ≠ '\x00' := by
  have hall : ∀ p ∈ initials, p.1 ≠ '\x00' := by decide
  exact hall p hp

/-- A character whose title case begins like a word is the letter, or a small letter with a sign. -/
theorem of_head?_titleChar (h : (titleChar c).head? = some p.1) :
    (c = p.1 ∨ c = p.2) ∨ ∃ s ∈ signs, titleChar c = [p.1, s] := by
  unfold titleChar at h ⊢
  cases htitle : expansion? titleExpansions c.toNat with
  | some codes =>
    rw [htitle] at h
    simp only [List.head?_map, Option.map_eq_some_iff] at h
    obtain ⟨n, hn, hchar⟩ := h
    rw [eq_toNat_of_ofNat hchar (initial_ne_null hp)] at hn
    exact absurd hn (initialTables.title p hp _ (mem_of_expansion? htitle))
  | none =>
    rw [htitle] at h
    simp only [upperChar, mapCase] at h ⊢
    cases hupper : expansion? upperExpansions c.toNat with
    | some codes =>
      rw [hupper] at h
      simp only [List.head?_map, Option.map_eq_some_iff] at h ⊢
      obtain ⟨n, hn, hchar⟩ := h
      rw [eq_toNat_of_ofNat hchar (initial_ne_null hp)] at hn
      have hmem : codes ∈ signs.map fun s => [p.1.toNat, s.toNat] :=
        initialTables.signed p hp _ (mem_of_expansion? hupper) hn
      obtain ⟨s, hs, rfl⟩ := List.mem_map.1 hmem
      refine .inr ⟨s, hs, ?_⟩
      rw [List.map_cons, List.map_singleton, Char.ofNat_toNat, Char.ofNat_toNat]
    | none =>
      rw [hupper] at h
      simp only [List.head?_cons, Option.some.injEq] at h
      have himage := eq_toNat_of_ofNat h (initial_ne_null hp)
      have hruns := List.all_eq_true.1 initialTables.upper p hp
      refine .inl ((mem_of_image_eq hruns himage).imp Char.toNat_inj.1 fun hmem => ?_)
      exact Char.toNat_inj.1 (List.mem_singleton.1 hmem)

/-- A character whose lower case begins like the small letter is the letter. -/
theorem of_head?_lowerChar (h : (lowerChar c).head? = some p.2) : c = p.1 ∨ c = p.2 := by
  have hmem := toNat_mem_lowerCodes (List.mem_of_head? h)
  rcases mem_lowerCodes hmem with ⟨-, hdotted⟩ | ⟨-, himage⟩
  · have hnone : ∀ p ∈ initials, ¬ (p.2.toNat = 0x69 ∨ p.2.toNat = 0x307) := by decide
    exact absurd hdotted (hnone p hp)
  · have hruns := List.all_eq_true.1 initialTables.lower p hp
    rcases mem_of_image_eq hruns himage.symm with hcode | hcode
    · exact .inr (Char.toNat_inj.1 hcode)
    · exact .inl (Char.toNat_inj.1 (List.mem_singleton.1 hcode))

theorem cases_of_initial (h : c = p.1 ∨ c = p.2) :
    titleChar c = [p.1] ∧ c ≠ 'Σ' ∧ lowerChar c = [p.2] := by
  have hall : ∀ p ∈ initials, (titleChar p.1 = [p.1] ∧ p.1 ≠ 'Σ' ∧ lowerChar p.1 = [p.2]) ∧
      titleChar p.2 = [p.1] ∧ p.2 ≠ 'Σ' ∧ lowerChar p.2 = [p.2] := by
    decide +kernel
  rcases h with rfl | rfl
  · exact (hall p hp).1
  · exact (hall p hp).2

end

theorem titleChar_ne_nil (c : Char) : titleChar c ≠ [] := by
  have htitle : ∀ e ∈ titleExpansions, e.2 ≠ [] := by decide +kernel
  have hupper : ∀ e ∈ upperExpansions, e.2 ≠ [] := by decide +kernel
  unfold titleChar
  split
  · next codes h => simpa using htitle _ (mem_of_expansion? h)
  · unfold upperChar mapCase
    split
    · next codes h => simpa using hupper _ (mem_of_expansion? h)
    · exact List.cons_ne_nil _ _

/-! ## Words -/

/-- A word for a kind of steps: a first letter and small letters behind it. -/
theorem word_initial (k : StepKind) : ∃ p ∈ initials, ∃ rest, k.word.toList = p.1 :: rest ∧
    lowerList k.word.toList = p.2 :: rest ∧ rest.head? ∉ signs.map some := by
  cases k with
  | context => exact ⟨('G', 'g'), by decide, "iven".toList, by decide, by decide, by decide⟩
  | action => exact ⟨('W', 'w'), by decide, "hen".toList, by decide, by decide, by decide⟩
  | outcome => exact ⟨('T', 't'), by decide, "hen".toList, by decide, by decide, by decide⟩

/-- **Capitalized words are the words in any case.** -/
theorem capitalized_eq_word_iff (cs : List Char) (k : StepKind) :
    capitalized cs = k.word.toList ↔ lowerList cs = lowerList k.word.toList := by
  obtain ⟨p, hp, rest, hword, hlower, hsigns⟩ := word_initial k
  rw [hlower, hword]
  cases cs with
  | nil => exact iff_of_false (List.cons_ne_nil _ _).symm (List.cons_ne_nil _ _).symm
  | cons c tail =>
    have hcapital : capitalized (c :: tail) = titleChar c ++ lowerFrom [c] tail := rfl
    have hsmall : lowerList (c :: tail) = lowerPiece [] tail c ++ lowerFrom [c] tail := rfl
    rw [hcapital, hsmall]
    have hboth : (c = p.1 ∨ c = p.2) →
        (titleChar c ++ lowerFrom [c] tail = p.1 :: rest ↔
          lowerPiece [] tail c ++ lowerFrom [c] tail = p.2 :: rest) := by
      intro hc
      obtain ⟨htitle, hsigma, hchar⟩ := cases_of_initial hp hc
      rw [htitle, lowerPiece, if_neg hsigma, hchar, List.singleton_append, List.singleton_append,
        List.cons_inj_right, List.cons_inj_right]
    constructor
    · intro h
      have hhead : (titleChar c).head? = some p.1 := by
        rw [← List.head?_append_of_ne_nil _ (titleChar_ne_nil c), h, List.head?_cons]
      rcases of_head?_titleChar hp hhead with hc | ⟨s, hs, htitle⟩
      · exact (hboth hc).1 h
      · -- the sign would have to be the second letter of the word
        rw [htitle, List.cons_append, List.cons_append, List.nil_append,
          List.cons_inj_right] at h
        refine absurd (List.mem_map.2 ⟨s, hs, ?_⟩) hsigns
        rw [← h, List.head?_cons]
    · intro h
      have hhead : (lowerPiece [] tail c).head? = some p.2 := by
        rw [← List.head?_append_of_ne_nil _ (lowerPiece_ne_nil _ _ _), h, List.head?_cons]
      have hsmallOnes : ∀ p ∈ initials, p.2 ≠ 'ς' ∧ p.2 ≠ 'σ' := by decide
      rcases lowerPiece_cases [] tail c with ⟨-, hpiece⟩ | ⟨-, hpiece⟩ | hpiece
      · rw [hpiece, List.head?_cons, Option.some.injEq] at hhead
        exact absurd hhead.symm (hsmallOnes p hp).1
      · rw [hpiece, List.head?_cons, Option.some.injEq] at hhead
        exact absurd hhead.symm (hsmallOnes p hp).2
      · rw [hpiece] at hhead
        exact (hboth (of_head?_lowerChar hp hhead)).2 h

end Acceptance.Text
