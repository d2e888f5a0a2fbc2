import Acceptance.Proofs.Step.Splits
import Acceptance.Step.Catalog

/-!
# The case of a step text

ASCII letters that change their case change no answer of a look-up.  Both ways to compare a text,
the folding of the whole and the letters one by one, take a small letter and its capital for the
same, and neither blanks nor quotes are letters; so a search tries the same candidates in the same
order, and what it captures is the same but for the case of these letters.

    f c.toLower = f c                           where it holds of the 26 capitals    (of_toLower)
    capturesOf? pieces (text.map Char.toLower) =
      (capturesOf? pieces text).map (·.map (·.map Char.toLower))         (capturesOf?_toLower)
    SameButCase s t → c.find? keyword s = c.find? keyword t, with arguments alike
                                                                            (same_look_up_of_case)
-/

namespace Acceptance

open Acceptance.Text

/-- A text with small letters for its ASCII capitals. -/
def small (s : String) : String := .ofList (s.toList.map Char.toLower)

/-- Texts that differ in the case of ASCII letters at most. -/
def SameButCase (s t : String) : Prop := small s = small t

instance (s t : String) : Decidable (SameButCase s t) :=
  inferInstanceAs (Decidable (small s = small t))

/-! ## Characters -/

namespace Text

/-- What is alike for the 26 capitals and their small letters is so for every character. -/
theorem of_toLower {α : Type} {f : Char → α}
    (h : ∀ n, n < 26 → f (Char.ofNat (65 + n)).toLower = f (Char.ofNat (65 + n))) (c : Char) :
    f c.toLower = f c := by
  by_cases hc : 65 ≤ c.toNat ∧ c.toNat ≤ 90
  · have hn := h (c.toNat - 65) (by omega)
    rwa [Nat.add_sub_cancel' hc.1, Char.ofNat_toNat] at hn
  · have hlower : c.toLower = c := by
      unfold Char.toLower
      exact dif_neg hc
    rw [hlower]

theorem foldChar_toLower (c : Char) : foldChar c.toLower = foldChar c :=
  of_toLower (by decide +kernel) c

theorem sameLetter_toLower (p c : Char) : sameLetter p c.toLower = sameLetter p c := by
  have hsimple : simpleLower c.toLower = simpleLower c := of_toLower (by decide +kernel) c
  unfold sameLetter
  rw [hsimple]

theorem isBlank_toLower (c : Char) : isBlank c.toLower = isBlank c :=
  of_toLower (by decide) c

theorem toLower_eq_iff {c d : Char}
    (h : ∀ n, n < 26 → ((Char.ofNat (65 + n)).toLower = d ↔ Char.ofNat (65 + n) = d)) :
    c.toLower = d ↔ c = d :=
  iff_of_eq (of_toLower (f := (· = d)) (fun n hn => propext (h n hn)) c)

theorem toLower_eq_quote_iff {c : Char} : c.toLower = '"' ↔ c = '"' :=
  toLower_eq_iff (by decide)

theorem toLower_eq_feed_iff {c : Char} : c.toLower = '\n' ↔ c = '\n' :=
  toLower_eq_iff (by decide)

theorem fold_small (s : String) : fold (small s) = fold s := by
  simp [fold, small, List.flatMap_map, foldChar_toLower]

end Text

/-! ## The search -/

namespace Pattern

theorem dropLiteral?_toLower (piece text : List Char) :
    dropLiteral? piece (text.map Char.toLower) =
      (dropLiteral? piece text).map (·.map Char.toLower) := by
  induction piece generalizing text with
  | nil => rfl
  | cons p piece ih =>
    cases text with
    | nil => rfl
    | cons c text =>
      rw [List.map_cons, dropLiteral?, dropLiteral?, sameLetter_toLower, ih]
      split <;> rfl

/-- A capture and the text behind it in small letters. -/
def smallStart (s : List Char × List Char) : List Char × List Char :=
  (s.1.map Char.toLower, s.2.map Char.toLower)

theorem quotedStart?_toLower (text : List Char) :
    quotedStart? (text.map Char.toLower) = (quotedStart? text).map smallStart := by
  have hne : ((· != '"') : Char → Bool) ∘ Char.toLower = (· != '"') := by
    funext c
    rw [Function.comp_apply, Bool.eq_iff_iff, bne_iff_ne, bne_iff_ne, Ne, toLower_eq_quote_iff]
  cases text with
  | nil => rfl
  | cons c text =>
    by_cases hc : c = '"'
    · subst hc
      have hquote : Char.toLower '"' = '"' := by decide
      rw [List.map_cons, hquote, quotedStart?, quotedStart?, List.dropWhile_map, List.takeWhile_map,
        hne]
      cases text.dropWhile (· != '"') with
      | nil => rfl
      | cons close rest => simp [smallStart, hquote]
    · have hnone : ∀ {d : Char} {ds : List Char}, d ≠ '"' → quotedStart? (d :: ds) = none := by
        intro d ds hd
        unfold quotedStart?
        split
        · next h => exact absurd (List.cons.inj h).1 hd
        · rfl
      rw [List.map_cons, hnone hc, hnone (mt toLower_eq_quote_iff.1 hc)]
      rfl

theorem bareStarts_toLower (text : List Char) :
    bareStarts (text.map Char.toLower) = (bareStarts text).map smallStart := by
  induction text with
  | nil => rfl
  | cons c text ih =>
    rw [List.map_cons, bareStarts, bareStarts, isBlank_toLower, ih]
    split
    · rfl
    · simp [smallStart, Function.comp_def]

theorem candidates_toLower (text : List Char) :
    candidates (text.map Char.toLower) = (candidates text).map smallStart := by
  rw [candidates, candidates, quotedStart?_toLower, bareStarts_toLower, List.map_append]
  cases quotedStart? text <;> rfl

theorem isEnd_toLower (text : List Char) : isEnd (text.map Char.toLower) = isEnd text := by
  cases text with
  | nil => rfl
  | cons c text =>
    cases text with
    | nil => simp [isEnd, toLower_eq_feed_iff]
    | cons d text => simp [isEnd]

theorem capturesOf?_toLower (pieces : List (List Char)) (text : List Char) :
    capturesOf? pieces (text.map Char.toLower) =
      (capturesOf? pieces text).map (·.map (·.map Char.toLower)) := by
  induction pieces generalizing text with
  | nil => rfl
  | cons piece pieces ih =>
    rw [capturesOf?, capturesOf?, dropLiteral?_toLower]
    cases dropLiteral? piece text with
    | none => rfl
    | some rest =>
      simp only [Option.map_some]
      cases pieces with
      | nil =>
        rw [capturesBehind?, capturesBehind?, isEnd_toLower]
        split <;> rfl
      | cons next pieces =>
        rw [capturesBehind?_cons, capturesBehind?_cons, candidates_toLower, List.findSome?_map,
          List.map_findSome?]
        congr 1
        funext s
        simp only [Function.comp_apply, smallStart, ih, Option.map_map]
        rfl

theorem unquoteList_toLower (cs : List Char) :
    unquoteList (cs.map Char.toLower) = (unquoteList cs).map Char.toLower := by
  cases cs with
  | nil => rfl
  | cons c cs =>
    by_cases hc : c = '"'
    · subst hc
      have hlast : (cs.map Char.toLower).getLast? = some '"' ↔ cs.getLast? = some '"' := by
        simp [List.getLast?_map, toLower_eq_quote_iff]
      have hquote : Char.toLower '"' = '"' := by decide
      rw [List.map_cons, hquote, unquoteList, unquoteList]
      simp only [hlast]
      split
      · rw [List.map_dropLast]
      · rw [List.map_cons, hquote]
    · have hplain : ∀ {d : Char} {ds : List Char}, d ≠ '"' → unquoteList (d :: ds) = d :: ds := by
        intro d ds hd
        unfold unquoteList
        split
        · next h => exact absurd (List.cons.inj h).1 hd
        · rfl
      rw [List.map_cons, hplain hc, hplain (mt toLower_eq_quote_iff.1 hc), List.map_cons]

theorem captures?_small (pattern text : String) :
    captures? pattern (small text) = (captures? pattern text).map (·.map small) := by
  rw [captures?, captures?, small, String.toList_ofList, capturesOf?_toLower, Option.map_map,
    Option.map_map]
  congr 1
  funext captures
  simp [Function.comp_def, small]

theorem accepts_small (pattern text : String) :
    accepts pattern (small text) = accepts pattern text := by
  rw [accepts, accepts, captures?_small, Option.isSome_map]

theorem unquote_small (value : String) : unquote (small value) = small (unquote value) := by
  simp [unquote, small, unquoteList_toLower]

theorem arguments_small (pattern text : String) :
    arguments pattern (small text) = (arguments pattern text).map small := by
  rw [arguments, arguments, captures?_small]
  cases captures? pattern text with
  | none => rfl
  | some values => simp [Function.comp_def, unquote_small]

end Pattern

/-! ## Look-up -/

namespace Catalog

theorem isExact_small (d : StepDefinition) (text : String) :
    d.isExact (small text) = d.isExact text := by
  rw [StepDefinition.isExact, StepDefinition.isExact, fold_small]

theorem isTemplated_small (d : StepDefinition) (text : String) :
    d.isTemplated (small text) = d.isTemplated text := by
  rw [StepDefinition.isTemplated, StepDefinition.isTemplated, Pattern.accepts_small]

section
variable (c : Catalog) (keyword text : String)

theorem find?_small : c.find? keyword (small text) = c.find? keyword text := by
  simp only [find?, isExact_small, isTemplated_small]

theorem findAll_small : c.findAll keyword (small text) = c.findAll keyword text := by
  simp only [findAll, isExact_small, isTemplated_small]

theorem positions_small : c.positions keyword (small text) = c.positions keyword text := by
  simp only [positions, isExact_small, isTemplated_small]

end

/-- **The case of a text is no matter to a look-up.**  Texts that differ in the case of ASCII
letters have the same answer and the same list of definitions that accept them, and the arguments
that any definition takes from the one and from the other are as many and differ in this case at
most. -/
theorem same_look_up_of_case {s t : String} (h : SameButCase s t) (c : Catalog) (keyword : String) :
    c.find? keyword s = c.find? keyword t ∧
      c.findAll keyword s = c.findAll keyword t ∧
      c.positions keyword s = c.positions keyword t ∧
      ∀ r, c.resolve? keyword s = some r → ∃ arguments,
        c.resolve? keyword t = some ⟨r.definition, arguments⟩ ∧
          List.Forall₂ SameButCase r.arguments arguments := by
  have hfind : c.find? keyword s = c.find? keyword t := by
    rw [← find?_small c keyword s, h, find?_small]
  refine ⟨hfind, ?_, ?_, ?_⟩
  · rw [← findAll_small c keyword s, h, findAll_small]
  · rw [← positions_small c keyword s, h, positions_small]
  · intro r hr
    obtain ⟨d, hd, rfl⟩ := Option.map_eq_some_iff.1 hr
    refine ⟨Pattern.arguments d.pattern t, ?_, ?_⟩
    · rw [resolve?, ← hfind, hd, Option.map_some]
    · have hlower : List.Forall₂ (· = ·) ((Pattern.arguments d.pattern s).map small)
          ((Pattern.arguments d.pattern t).map small) := by
        rw [List.forall₂_eq_eq_eq, ← Pattern.arguments_small, h, Pattern.arguments_small]
      rwa [List.forall₂_map_left_iff, List.forall₂_map_right_iff] at hlower

def depositDefinition : StepDefinition :=
  { kind := .action, pattern := "deposit \x7bsum\x7d to \x7bname\x7d", owner := "Bank",
    module := "steps", method := "deposit", parameters := [⟨"str", "sum"⟩, ⟨"str", "name"⟩] }

theorem deposit_of_case :
    SameButCase "Deposit \"Ten EURO\" to Zoë" "DEPOSIT \"ten euro\" TO zoë" ∧
      find? [depositDefinition] "When" "Deposit \"Ten EURO\" to Zoë" = some depositDefinition ∧
      find? [depositDefinition] "When" "DEPOSIT \"ten euro\" TO zoë" = some depositDefinition ∧
      ∃ arguments, resolve? [depositDefinition] "When" "DEPOSIT \"ten euro\" TO zoë" =
        some ⟨depositDefinition, arguments⟩ ∧
          List.Forall₂ SameButCase ["Ten EURO", "Zoë"] arguments := by
  have hcase : SameButCase "Deposit \"Ten EURO\" to Zoë" "DEPOSIT \"ten euro\" TO zoë" := by
    decide +kernel
  have hfind : find? [depositDefinition] "When" "Deposit \"Ten EURO\" to Zoë" =
      some depositDefinition := by
    decide +kernel
  have hresolve : resolve? [depositDefinition] "When" "Deposit \"Ten EURO\" to Zoë" =
      some ⟨depositDefinition, ["Ten EURO", "Zoë"]⟩ := by
    decide +kernel
  obtain ⟨hsame, -, -, harguments⟩ := same_look_up_of_case hcase [depositDefinition] "When"
  exact ⟨hcase, hfind, hsame.symm.trans hfind, harguments _ hresolve⟩

end Catalog

end Acceptance
