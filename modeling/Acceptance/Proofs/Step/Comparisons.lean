import Acceptance.Proofs.Step.LookUp
import Acceptance.Proofs.Text.Letters

/-!
# The two comparisons of a text

A pattern without placeholders is compared in two ways: a definition without parameters has the
text whose folding as a whole is that of the pattern, a definition with parameters, such as one that
takes a data table, compares letter by letter and lets a line feed follow.  Both accept what agrees
with the pattern character by character.  Beyond that, the folding of a whole may divide a text in
other places, and the letters one by one do not tell one `i` from another.

    d.isExact text ∧ e.isTemplated text ↔ p.map foldChar = t.map foldChar      (Comparison.both)
    Comparison pattern text (d.isExact text) (e.isTemplated text)        (comparison_of_literal)
-/

namespace Acceptance

open Acceptance.Text Acceptance.Pattern

/-! ## Characters -/

namespace Text

/-- The dot that stands above a letter. -/
def dotAbove : Char := '\u0307'

/-- No folding begins with the dot but its own. -/
theorem eq_of_head?_foldCodes {n : Nat} (h : (foldCodes n).head? = some dotAbove.toNat) :
    n = dotAbove.toNat := by
  unfold foldCodes caseCodes at h
  cases hn : expansion? foldExpansions n with
  | none =>
    have hclear : ∀ r ∈ foldRuns, dotAbove.toNat < r.2.2.2 ∨
        r.2.2.2 + (r.2.1 - r.1) < dotAbove.toNat := by
      decide +kernel
    rw [hn] at h
    have himage : foldRuns.image n = dotAbove.toNat := Option.some.inj h
    rcases foldRuns.image_eq_or_within n with hself | ⟨r, hr, hfrom, hto⟩
    · exact hself.symm.trans himage
    · have hbeside := hclear r hr
      omega
  | some codes =>
    have hheads : ∀ e ∈ foldExpansions, e.2.head? ≠ some dotAbove.toNat := by decide +kernel
    rw [hn] at h
    exact absurd h (hheads _ (mem_of_expansion? hn))

theorem eq_dotAbove {c : Char} {cs : List Char} (h : foldChar c = dotAbove :: cs) :
    c = dotAbove := by
  refine Char.toNat_inj.1 (eq_of_head?_foldCodes ?_)
  rw [← map_toNat_foldChar, h]
  rfl

theorem foldChar_ne_nil (c : Char) : foldChar c ≠ [] := by
  rw [foldChar, mapCase_eq]
  refine mt List.map_eq_nil_iff.1 (caseCodes_ne_nil (fun e he => ?_) c.toNat)
  exact List.ne_nil_of_length_pos (Nat.lt_trans Nat.zero_lt_one (tables_agree.longer e he))

theorem foldings : foldChar 'I' = ['i'] ∧ foldChar 'i' = ['i'] ∧ foldChar 'İ' = ['i', dotAbove] ∧
    foldChar 'ı' = ['ı'] ∧ foldChar dotAbove = [dotAbove] ∧ foldChar '\n' = ['\n'] := by
  decide +kernel

theorem foldChar_dotAbove : foldChar dotAbove = [dotAbove] := foldings.2.2.2.2.1

theorem foldChar_feed : foldChar '\n' = ['\n'] := foldings.2.2.2.2.2

theorem sameLetter_comm {a b : Char} (h : sameLetter a b = true) : sameLetter b a = true :=
  sameLetter_iff.2 ((sameLetter_iff.1 h).imp Eq.symm And.symm)

theorem eq_of_sameLetter_dotAbove {c : Char} (h : sameLetter dotAbove c = true) :
    c = dotAbove := by
  rcases sameLetter_iff.1 h with hfold | ⟨hdot, -⟩
  · rw [foldChar_dotAbove] at hfold
    exact eq_dotAbove hfold.symm
  · exact absurd hdot (by decide)

theorem eq_of_sameLetter_feed {c : Char} (h : sameLetter '\n' c = true) : c = '\n' := by
  rcases sameLetter_iff.1 h with hfold | ⟨hfeed, -⟩
  · have hmem : '\n' ∈ foldChar c := by
      rw [← hfold, foldChar_feed]
      exact List.mem_cons_self
    exact (eq_of_mem_foldChar (by decide) hmem).symm
  · exact absurd hfeed (by decide)

/-- The foldings of the letter i. -/
theorem foldChar_of_mem_lettersI {c : Char} (h : c ∈ lettersI) :
    foldChar c = ['i'] ∨ foldChar c = ['i', dotAbove] ∨ c = 'ı' ∧ foldChar c = ['ı'] := by
  obtain ⟨hcapital, hsmall, hdotted, hdotless, -, -⟩ := foldings
  simp only [lettersI, List.mem_cons, List.not_mem_nil, or_false] at h
  rcases h with rfl | rfl | rfl | rfl
  · exact .inl hcapital
  · exact .inl hsmall
  · exact .inr (.inl hdotted)
  · exact .inr (.inr ⟨rfl, hdotless⟩)

/-- A letter i whose folding is a single character folds to `i`, but for the small dotless one. -/
theorem foldChar_eq_i {c : Char} (h : c ∈ lettersI) (single : (foldChar c).length = 1 ∧ c ≠ 'ı') :
    foldChar c = ['i'] := by
  rcases foldChar_of_mem_lettersI h with hi | hi | ⟨hi, -⟩
  · exact hi
  · rw [hi] at single
    exact absurd single.1 (by decide)
  · exact absurd hi single.2

end Text

/-! ## Texts that agree letter by letter -/

section
variable {p t : List Char}

theorem Pattern.Alike.symm (h : Alike p t) : Alike t p :=
  h.flip.imp fun _ _ => sameLetter_comm

/-- A dot in front of one of two texts is a difference that nothing behind it makes up for. -/
theorem fold_ne_dotAbove_cons (h : Alike p t) :
    p.flatMap foldChar ≠ dotAbove :: t.flatMap foldChar := by
  induction h with
  | nil => exact nofun
  | @cons a b p t hletter halike ih =>
    intro heq
    rw [List.flatMap_cons, List.flatMap_cons] at heq
    obtain ⟨c, cs, hfold⟩ := List.exists_cons_of_ne_nil (foldChar_ne_nil a)
    rw [hfold] at heq
    obtain ⟨rfl, -⟩ := List.cons.inj heq
    obtain rfl := eq_dotAbove hfold
    obtain rfl := eq_of_sameLetter_dotAbove hletter
    rw [← hfold, foldChar_dotAbove] at heq
    exact ih (List.cons.inj heq).2

/-- Texts that agree letter by letter and as a whole have the same foldings letter by letter. -/
theorem map_foldChar_eq (h : Alike p t) (hfold : p.flatMap foldChar = t.flatMap foldChar) :
    p.map foldChar = t.map foldChar := by
  induction h with
  | nil => rfl
  | @cons a b p t hletter halike ih =>
    rw [List.flatMap_cons, List.flatMap_cons] at hfold
    have hsame : foldChar a = foldChar b := by
      rcases sameLetter_iff.1 hletter with heq | ⟨ha, hb⟩
      · exact heq
      · rcases foldChar_of_mem_lettersI ha with ha | ha | ⟨-, ha⟩ <;>
          rcases foldChar_of_mem_lettersI hb with hb | hb | ⟨-, hb⟩ <;>
          rw [ha, hb] at hfold ⊢
        · exact absurd (List.cons.inj hfold).2 (fold_ne_dotAbove_cons halike)
        · exact absurd (List.cons.inj hfold).1 (by decide)
        · exact absurd (List.cons.inj hfold).2.symm (fold_ne_dotAbove_cons (Alike.symm halike))
        · exact absurd (List.cons.inj hfold).1 (by decide)
        · exact absurd (List.cons.inj hfold).1 (by decide)
        · exact absurd (List.cons.inj hfold).1 (by decide)
    rw [hsame] at hfold
    rw [List.map_cons, List.map_cons, hsame, ih (List.append_cancel_left hfold)]

theorem map_foldChar_eq_iff : p.map foldChar = t.map foldChar ↔
    List.Forall₂ (fun a b => foldChar a = foldChar b) p t := by
  rw [← List.forall₂_map_right_iff, ← List.forall₂_map_left_iff, List.forall₂_eq_eq_eq]

theorem alike_of_map_foldChar_eq (h : p.map foldChar = t.map foldChar) : Alike p t :=
  (map_foldChar_eq_iff.1 h).imp fun _ _ heq => sameLetter_iff.2 (.inl heq)

/-- Where letters that agree have different foldings, they are two different letters i. -/
theorem map_foldChar_ne_iff (h : Alike p t) : p.map foldChar ≠ t.map foldChar ↔
    ∃ q ∈ p.zip t, q.1 ∈ lettersI ∧ q.2 ∈ lettersI ∧ foldChar q.1 ≠ foldChar q.2 := by
  obtain ⟨hlength, hpairs⟩ := List.forall₂_iff_zip.1 h
  rw [Ne, map_foldChar_eq_iff, List.forall₂_iff_zip]
  constructor
  · intro hne
    by_contra hnone
    refine hne ⟨hlength, fun {a b} hab => ?_⟩
    rcases sameLetter_iff.1 (hpairs hab) with heq | ⟨ha, hb⟩
    · exact heq
    · by_contra hfold
      exact hnone ⟨(a, b), hab, ha, hb, hfold⟩
  · rintro ⟨⟨a, b⟩, hab, -, -, hfold⟩ ⟨-, hall⟩
    exact hfold (hall hab)

/-- Where all foldings are single characters, texts that agree as a whole agree one by one. -/
theorem map_foldChar_eq_of_single (hsingle : ∀ c ∈ p ++ t, (foldChar c).length = 1)
    (hfold : p.flatMap foldChar = t.flatMap foldChar) : p.map foldChar = t.map foldChar := by
  have hwhole : ∀ {cs : List Char}, (∀ c ∈ cs, (foldChar c).length = 1) →
      cs.map foldChar = (cs.flatMap foldChar).map fun c => [c] := by
    intro cs hcs
    induction cs with
    | nil => rfl
    | cons c cs ih =>
      obtain ⟨d, hd⟩ := List.length_eq_one_iff.1 (hcs c List.mem_cons_self)
      rw [List.map_cons, List.flatMap_cons, hd, ih fun c hc => hcs c (List.mem_cons_of_mem _ hc)]
      rfl
  rw [hwhole fun c hc => hsingle c (List.mem_append_left _ hc),
    hwhole fun c hc => hsingle c (List.mem_append_right _ hc), hfold]

/-- Folding keeps the line feeds of a text and makes no others. -/
theorem count_feed_fold (cs : List Char) :
    (cs.flatMap foldChar).count '\n' = cs.count '\n' := by
  induction cs with
  | nil => rfl
  | cons c cs ih =>
    rw [List.flatMap_cons, List.count_append, ih]
    by_cases hc : c = '\n'
    · rw [hc, foldChar_feed, List.count_singleton, beq_self_eq_true, if_pos rfl, Nat.add_comm,
        List.count_cons_self]
    · have hnone : (foldChar c).count '\n' = 0 :=
        List.count_eq_zero_of_not_mem fun hmem => hc (eq_of_mem_foldChar (by decide) hmem).symm
      rw [hnone, List.count_cons_of_ne hc, Nat.zero_add]

theorem count_feed_alike (h : Alike p t) : p.count '\n' = t.count '\n' := by
  induction h with
  | nil => rfl
  | @cons a b p t hletter halike ih =>
    have hiff : a = '\n' ↔ b = '\n' := by
      constructor
      · rintro rfl
        exact eq_of_sameLetter_feed hletter
      · rintro rfl
        exact eq_of_sameLetter_feed (sameLetter_comm hletter)
    simp [List.count_cons, ih, hiff]

/-- A line feed behind one of two texts that agree letter by letter is a difference as a whole. -/
theorem fold_ne_of_feed (h : Alike p t) :
    p.flatMap foldChar ≠ (t ++ ['\n']).flatMap foldChar := by
  intro heq
  have hcount := congrArg (List.count '\n') heq
  rw [count_feed_fold, count_feed_fold, count_feed_alike h, List.count_append,
    List.count_singleton_self] at hcount
  omega

/-- Texts that agree as a whole and letter by letter, a line feed at the end of the second aside. -/
theorem agree_both_iff : (p.flatMap foldChar = t.flatMap foldChar ∧
      ∃ body, Alike p body ∧ (t = body ∨ t = body ++ ['\n'])) ↔
    p.map foldChar = t.map foldChar := by
  constructor
  · rintro ⟨hfold, body, halike, rfl | rfl⟩
    · exact map_foldChar_eq halike hfold
    · exact absurd hfold (fold_ne_of_feed halike)
  · intro hmap
    refine ⟨?_, t, alike_of_map_foldChar_eq hmap, .inl rfl⟩
    rw [List.flatMap_def, hmap, List.flatMap_def]

/-- Texts that agree letter by letter and not as a whole. -/
theorem agree_letters_only_iff : (p.flatMap foldChar ≠ t.flatMap foldChar ∧
      ∃ body, Alike p body ∧ (t = body ∨ t = body ++ ['\n'])) ↔
    ∃ body, Alike p body ∧ (t = body ++ ['\n'] ∨ t = body ∧ ∃ q ∈ p.zip body,
      q.1 ∈ lettersI ∧ q.2 ∈ lettersI ∧ foldChar q.1 ≠ foldChar q.2) := by
  constructor
  · rintro ⟨hfold, body, halike, rfl | rfl⟩
    · refine ⟨t, halike, .inr ⟨rfl, (map_foldChar_ne_iff halike).1 fun hmap => ?_⟩⟩
      exact hfold (agree_both_iff.2 hmap).1
    · exact ⟨body, halike, .inl rfl⟩
  · rintro ⟨body, halike, rfl | ⟨rfl, hletters⟩⟩
    · exact ⟨fold_ne_of_feed halike, body, halike, .inr rfl⟩
    · have hmap := (map_foldChar_ne_iff halike).2 hletters
      exact ⟨fun hfold => hmap (map_foldChar_eq halike hfold), t, halike, .inl rfl⟩

end

theorem fold_eq_iff {s t : String} :
    fold s = fold t ↔ s.toList.flatMap foldChar = t.toList.flatMap foldChar :=
  String.ofList_inj

/-! ## Definitions -/

/-- Texts whose letters have the same foldings one by one, or are letters i. -/
def LetterByLetter (p t : List Char) : Prop :=
  List.Forall₂ (fun a b => foldChar a = foldChar b ∨ a ∈ lettersI ∧ b ∈ lettersI) p t

theorem letterByLetter_iff {p t : List Char} : LetterByLetter p t ↔ Alike p t := by
  unfold LetterByLetter Alike
  simp only [sameLetter_iff]

/-- How a pattern without placeholders and a text compare: `exact` as a whole, for a definition
without parameters, and `templated` letter by letter, for one with parameters. -/
structure Comparison (pattern text : String) (exact templated : Bool) : Prop where
  both : exact = true ∧ templated = true ↔
    pattern.toList.map foldChar = text.toList.map foldChar
  onlyExact : exact = true ∧ templated = false ↔
    fold pattern = fold text ∧ pattern.toList.map foldChar ≠ text.toList.map foldChar
  longer : exact = true ∧ templated = false →
    ∃ c ∈ pattern.toList ++ text.toList, (foldChar c).length ≠ 1
  onlyTemplated : exact = false ∧ templated = true ↔
    ∃ body, LetterByLetter pattern.toList body ∧ (text.toList = body ++ ['\n'] ∨
      text.toList = body ∧ ∃ q ∈ pattern.toList.zip body,
        q.1 ∈ lettersI ∧ q.2 ∈ lettersI ∧ foldChar q.1 ≠ foldChar q.2)
  /-- They come to the same where neither the foldings nor the letters i nor a line feed at the end
  make a difference. -/
  same : (∀ c ∈ pattern.toList ++ text.toList, (foldChar c).length = 1 ∧ c ≠ 'ı') →
    text.toList.length ≠ pattern.toList.length + 1 → exact = templated

section
variable {d e : StepDefinition} {text : String}

theorem isTemplated_literal_iff (hparameters : e.parameters ≠ [])
    (hliteral : IsLiteral e.pattern.toList []) : e.isTemplated text = true ↔
      ∃ body, Alike e.pattern.toList body ∧
        (text.toList = body ∨ text.toList = body ++ ['\n']) := by
  rw [StepDefinition.isTemplated_iff, ← written_iff.1 (.last hliteral)]
  simp only [splits_last_iff, dropLiteral?_eq_some_iff, isEnd_iff]
  constructor
  · rintro ⟨-, -, -, rest, ⟨body, halike, htext⟩, rfl | rfl⟩
    · exact ⟨body, halike, .inl (htext.trans (List.append_nil _))⟩
    · exact ⟨body, halike, .inr htext⟩
  · rintro ⟨body, halike, htext | htext⟩
    · exact ⟨hparameters, [], rfl, [], ⟨body, halike, htext.trans (List.append_nil _).symm⟩,
        .inl rfl⟩
    · exact ⟨hparameters, [], rfl, ['\n'], ⟨body, halike, htext⟩, .inr rfl⟩

/-- **What a table changes.**  A definition without parameters and one with parameters, of the same
pattern without placeholders, accept the same texts but for three things: a text that agrees as a
whole though not character by character, since a folding is longer than one character; a line feed
behind the text; and letters i that differ in their dot. -/
theorem comparison_of_literal (hnone : d.parameters = []) (hparameters : e.parameters ≠ [])
    (hpattern : e.pattern = d.pattern) (hliteral : IsLiteral d.pattern.toList []) (text : String) :
    Comparison d.pattern text (d.isExact text) (e.isTemplated text) := by
  have hexact : d.isExact text = true ↔
      d.pattern.toList.flatMap foldChar = text.toList.flatMap foldChar := by
    rw [StepDefinition.isExact_iff, fold_eq_iff, and_iff_right hnone]
  have htemplated : e.isTemplated text = true ↔ _ :=
    isTemplated_literal_iff hparameters (hpattern ▸ hliteral)
  rw [hpattern] at htemplated
  have hboth : d.isExact text = true ∧ e.isTemplated text = true ↔
      d.pattern.toList.map foldChar = text.toList.map foldChar := by
    rw [hexact, htemplated, agree_both_iff]
  have honlyExact : d.isExact text = true ∧ e.isTemplated text = false ↔
      fold d.pattern = fold text ∧
        d.pattern.toList.map foldChar ≠ text.toList.map foldChar := by
    rw [fold_eq_iff, ← hexact, Ne, ← hboth, ← Bool.not_eq_true]
    tauto
  have honlyTemplated := agree_letters_only_iff (p := d.pattern.toList) (t := text.toList)
  rw [← htemplated, Ne, ← hexact, Bool.not_eq_true] at honlyTemplated
  simp only [← letterByLetter_iff] at honlyTemplated
  have hlonger : d.isExact text = true ∧ e.isTemplated text = false →
      ∃ c ∈ d.pattern.toList ++ text.toList, (foldChar c).length ≠ 1 := by
    intro honly
    obtain ⟨hfold, hmap⟩ := honlyExact.1 honly
    by_contra hnot
    refine hmap (map_foldChar_eq_of_single (fun c hc => ?_) (fold_eq_iff.1 hfold))
    by_contra hlength
    exact hnot ⟨c, hc, hlength⟩
  refine ⟨hboth, honlyExact, hlonger, honlyTemplated, fun hsingle hlength => ?_⟩
  cases hd : d.isExact text <;> cases he : e.isTemplated text
  case false.false => rfl
  case true.true => rfl
  case true.false =>
    obtain ⟨c, hc, hlength⟩ := hlonger ⟨hd, he⟩
    exact absurd (hsingle c hc).1 hlength
  case false.true =>
    obtain ⟨body, hletters, htext | ⟨rfl, ⟨a, b⟩, hq, ha, hb, hfold⟩⟩ :=
      honlyTemplated.1 ⟨hd, he⟩
    · rw [htext, List.length_append, ← hletters.length_eq] at hlength
      exact absurd rfl hlength
    · -- both letters fold to `i`, so they do not differ
      obtain ⟨ha', hb'⟩ := List.of_mem_zip hq
      rw [foldChar_eq_i ha (hsingle a (List.mem_append_left _ ha')),
        foldChar_eq_i hb (hsingle b (List.mem_append_right _ hb'))] at hfold
      exact absurd rfl hfold

end

/-- A definition with a given pattern, and parameters or none. -/
def gateDefinition (pattern : String) (parameters : List StepParameter) : StepDefinition :=
  { kind := .context, pattern, owner := "Gate", module := "steps", method := "gate", parameters }

def gateTable : List StepParameter := [⟨"DataTable", "rows"⟩]

theorem gate_compared :
    (gateDefinition "Tor \x7b\x7d 7" []).parameters = [] ∧
      (gateDefinition "Tor \x7b\x7d 7" gateTable).parameters ≠ [] ∧
      IsLiteral "Tor \x7b\x7d 7".toList [] ∧
      Comparison "Tor \x7b\x7d 7" "TOR \x7b\x7d 7" true true := by
  have hliteral : IsLiteral "Tor \x7b\x7d 7".toList [] := by
    have hwritten : Written ["Tor \x7b\x7d 7".toList] "Tor \x7b\x7d 7".toList :=
      written_iff.2 (by decide +kernel)
    cases hwritten with
    | last hliteral => exact hliteral
  have hcompared := comparison_of_literal (d := gateDefinition "Tor \x7b\x7d 7" [])
    (e := gateDefinition "Tor \x7b\x7d 7" gateTable) rfl (by decide) rfl hliteral "TOR \x7b\x7d 7"
  have hexact : (gateDefinition "Tor \x7b\x7d 7" []).isExact "TOR \x7b\x7d 7" = true := by
    decide +kernel
  have htemplated :
      (gateDefinition "Tor \x7b\x7d 7" gateTable).isTemplated "TOR \x7b\x7d 7" = true := by
    decide +kernel
  rw [hexact, htemplated] at hcompared
  exact ⟨rfl, by decide, hliteral, hcompared⟩

/-- Definitions that have a text without a table and not with one, and the other way round. -/
theorem gate_differs :
    Catalog.find? [gateDefinition "Straße" []] "Given" "STRASSE" =
        some (gateDefinition "Straße" []) ∧
      Catalog.find? [gateDefinition "Straße" gateTable] "Given" "STRASSE" = none ∧
      Catalog.find? [gateDefinition "a" []] "Given" "a\n" = none ∧
      Catalog.find? [gateDefinition "a" gateTable] "Given" "a\n" =
        some (gateDefinition "a" gateTable) ∧
      Catalog.find? [gateDefinition "ı" []] "Given" "i" = none ∧
      Catalog.find? [gateDefinition "ı" gateTable] "Given" "i" =
        some (gateDefinition "ı" gateTable) := by
  decide +kernel

end Acceptance
