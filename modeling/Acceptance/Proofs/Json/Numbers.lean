import Acceptance.Json.Reader
import Acceptance.Proofs.Plan.LegalNames
import Acceptance.Proofs.Source.Names
import Acceptance.Proofs.Source.Numerals

/-!
# Numbers read back

A number is a whole part, a fraction and an exponent, of which the last two may be missing.  Where
the text behind it does not go on with a number, the reader takes these parts and no more, and what
it takes are such parts.  A number that is no integer keeps its text, and so do the words that stand
for numbers.

    n.Valid → EndsValue rest →
      readScalar (n.signed negative ++ rest) = .ok (n.json negative, rest)      (readScalar_parts)
    readUnsigned? negative cs = some (v, rest) → v = n.json negative ∧ n.Valid
      for some n                                                  (exists_parts_of_readUnsigned?)
    n.Valid → n.json negative = .decimal text → NumberText text                (Valid.numberText)
-/

namespace Acceptance.Json

open Acceptance.Text Source

/-! ## Algorithm -/

/-- A text that does not go on with a number. -/
def EndsValue (rest : List Char) : Prop :=
  ∀ c ∈ rest.head?, c.isDigit = false ∧ c ∉ ['.', 'e', 'E']

/-- The characters that a written value may open with. -/
def OpensValue (c : Char) : Prop :=
  c.isDigit = true ∨ c ∈ ['n', 't', 'f', 'N', 'I', '"', '[', '\x7b', '-']

/-- The parts of a number as they are written. -/
structure NumberParts where
  whole : List Char
  fraction : List Char
  exponent : List Char

namespace NumberParts

variable (n : NumberParts)

def chars : List Char := n.whole ++ (n.fraction ++ n.exponent)

/-- The text of a number with its sign. -/
def signed (negative : Bool) : List Char := (if negative then ['-'] else []) ++ n.chars

/-- The value of a number. -/
def json (negative : Bool) : Json :=
  if n.fraction.isEmpty && n.exponent.isEmpty then
    .int (if negative then -(Decimal.value n.whole : Int) else Decimal.value n.whole)
  else .decimal (.ofList (n.signed negative))

structure Valid : Prop where
  digits : AllDigits n.whole
  nonempty : n.whole ≠ []
  zero : n.whole.head? = some '0' → n.whole = ['0']
  fraction : n.fraction = [] ∨ ∃ ds, n.fraction = '.' :: ds ∧ AllDigits ds ∧ ds ≠ []
  exponent : n.exponent = [] ∨ ∃ mark sign ds, n.exponent = mark :: (sign ++ ds) ∧
    (mark = 'e' ∨ mark = 'E') ∧ sign ∈ [[], ['+'], ['-']] ∧ AllDigits ds ∧ ds ≠ []

end NumberParts

/-- The text of a number that is no integer, read as itself wherever it ends. -/
structure NumberText (text : String) : Prop where
  opens : ∃ c cs, text.toList = c :: cs ∧ OpensValue c ∧ c ∉ ['"', '[', '\x7b']
  line : '\r' ∉ text.toList
  reads : ∀ rest, EndsValue rest → readScalar (text.toList ++ rest) = .ok (.decimal text, rest)

/-! ## Parts that are written -/

/-- A text that does not go on with a digit. -/
def EndsRun (rest : List Char) : Prop := ∀ c ∈ rest.head?, c.isDigit = false

theorem EndsValue.run {rest : List Char} (h : EndsValue rest) : EndsRun rest :=
  fun c hc => (h c hc).1

theorem digitsOf_append {ds rest : List Char} (digits : AllDigits ds) (ends : EndsRun rest) :
    digitsOf (ds ++ rest) = (ds, rest) := by
  obtain ⟨htake, hdrop⟩ := takeWhile_stop digits ends
  rw [digitsOf, htake, hdrop]

theorem wholeOf?_append {ds rest : List Char} (digits : AllDigits ds) (ne : ds ≠ [])
    (zero : ds.head? = some '0' → ds = ['0']) (ends : EndsRun rest) :
    wholeOf? (ds ++ rest) = some (ds, rest) := by
  obtain ⟨d, others, rfl⟩ := List.exists_cons_of_ne_nil ne
  by_cases hd : d = '0'
  · rw [zero (by rw [hd]; rfl)]
    rfl
  · have hdigits := digitsOf_append digits ends
    rw [List.cons_append] at hdigits ⊢
    rw [wholeOf?]
    · rw [hdigits]
    · exact fun _ he => hd (List.cons.inj he).1

theorem fractionOf_append {ds rest : List Char} (digits : AllDigits ds) (ne : ds ≠ [])
    (ends : EndsRun rest) : fractionOf ('.' :: (ds ++ rest)) = ('.' :: ds, rest) := by
  obtain ⟨d, others, rfl⟩ := List.exists_cons_of_ne_nil ne
  rw [fractionOf, digitsOf_append digits ends]

theorem fractionOf_none {rest : List Char} (h : rest.head? ≠ some '.') :
    fractionOf rest = ([], rest) := by
  cases rest with
  | nil => rfl
  | cons c cs =>
    rw [fractionOf]
    rintro r he
    exact h (congrArg some (List.cons.inj he).1)

theorem exponentOf_append {mark : Char} {sign ds rest : List Char} (hmark : mark = 'e' ∨ mark = 'E')
    (hsign : sign ∈ [[], ['+'], ['-']]) (digits : AllDigits ds) (ne : ds ≠ [])
    (ends : EndsRun rest) :
    exponentOf (mark :: (sign ++ (ds ++ rest))) = (mark :: (sign ++ ds), rest) := by
  obtain ⟨d, others, rfl⟩ := List.exists_cons_of_ne_nil ne
  have hdigits := digitsOf_append digits ends
  have hd : d.isDigit = true := digits d List.mem_cons_self
  rw [List.cons_append] at hdigits
  simp only [List.mem_cons, List.not_mem_nil, or_false] at hsign
  unfold exponentOf
  simp only [if_pos hmark]
  rcases hsign with rfl | rfl | rfl
  · have hplus : d ≠ '+' := by
      rintro rfl
      exact absurd hd (by decide)
    have hminus : d ≠ '-' := by
      rintro rfl
      exact absurd hd (by decide)
    simp [hplus, hminus, hdigits]
  · simp [hdigits]
  · simp [hdigits]

theorem exponentOf_none {rest : List Char} (h : EndsValue rest) : exponentOf rest = ([], rest) := by
  cases rest with
  | nil => rfl
  | cons c cs =>
    have hc : ¬ (c = 'e' ∨ c = 'E') := fun he => (h c rfl).2 (by simp [he])
    unfold exponentOf
    exact if_neg hc

section
variable {n : NumberParts} {rest : List Char} (h : n.Valid) (ends : EndsValue rest)

include h ends

theorem NumberParts.Valid.exponent_spec :
    exponentOf (n.exponent ++ rest) = (n.exponent, rest) ∧
      EndsRun (n.exponent ++ rest) ∧ (n.exponent ++ rest).head? ≠ some '.' := by
  rcases h.exponent with he | ⟨mark, sign, ds, he, hmark, hsign, hds, hne⟩
  · rw [he, List.nil_append]
    exact ⟨exponentOf_none ends, ends.run, fun hc => (ends '.' hc).2 (by simp)⟩
  · rw [he, List.cons_append, List.append_assoc]
    refine ⟨exponentOf_append hmark hsign hds hne ends.run, ?_, ?_⟩
    · rintro c hc
      obtain rfl := Option.some.inj hc
      rcases hmark with rfl | rfl <;> rfl
    · rintro hc
      obtain rfl := Option.some.inj hc
      rcases hmark with hm | hm <;> cases hm

theorem NumberParts.Valid.fraction_spec :
    fractionOf (n.fraction ++ (n.exponent ++ rest)) = (n.fraction, n.exponent ++ rest) ∧
      EndsRun (n.fraction ++ (n.exponent ++ rest)) := by
  obtain ⟨-, hrun, hpoint⟩ := h.exponent_spec ends
  rcases h.fraction with hf | ⟨ds, hf, hds, hne⟩
  · rw [hf, List.nil_append]
    exact ⟨fractionOf_none hpoint, hrun⟩
  · rw [hf, List.cons_append]
    refine ⟨fractionOf_append hds hne hrun, ?_⟩
    rintro c hc
    obtain rfl := Option.some.inj hc
    rfl

theorem readUnsigned?_parts (negative : Bool) :
    readUnsigned? negative (n.chars ++ rest) = some (n.json negative, rest) := by
  obtain ⟨hexponent, -, -⟩ := h.exponent_spec ends
  obtain ⟨hfraction, hrun⟩ := h.fraction_spec ends
  have hwhole := wholeOf?_append h.digits h.nonempty h.zero hrun
  rw [NumberParts.chars, List.append_assoc, List.append_assoc, readUnsigned?, hwhole]
  simp only [hfraction, hexponent, NumberParts.json, NumberParts.signed, NumberParts.chars,
    List.append_assoc]
  split <;> rfl

/-- A number is no word: no word opens with a digit, nor with a digit behind a minus sign. -/
theorem readScalar_parts (negative : Bool) :
    readScalar (n.signed negative ++ rest) = .ok (n.json negative, rest) := by
  have hread := readUnsigned?_parts h ends negative
  obtain ⟨d, ds, hds⟩ := List.exists_cons_of_ne_nil h.nonempty
  have hd : d.isDigit = true := h.digits d (by simp [hds])
  have hother : ∀ x : Char, x.isDigit = false → ¬ x = d := by
    rintro x hx rfl
    rw [hd] at hx
    cases hx
  rw [NumberParts.signed, List.append_assoc]
  rw [NumberParts.chars, hds, List.cons_append, List.cons_append] at hread ⊢
  cases negative with
  | false =>
    have hwords : (words.findSome? fun w => (dropPrefix? w.1.toList
        (d :: (ds ++ (n.fraction ++ n.exponent) ++ rest))).map fun behind => (w.2, behind)) =
          none := by
      simp [words, dropPrefix?, hother]
    simp only [Bool.false_eq_true, if_false, List.nil_append]
    rw [readScalar, hwords, hread]
    exact fun _ he => hother '-' rfl (List.cons.inj he).1.symm
  | true =>
    have hwords : (words.findSome? fun w => (dropPrefix? w.1.toList
        ('-' :: d :: (ds ++ (n.fraction ++ n.exponent) ++ rest))).map fun behind =>
          (w.2, behind)) = none := by
      simp [words, dropPrefix?, hother]
    simp only [if_true, List.cons_append, List.nil_append]
    rw [readScalar, hwords]
    simp only [hread]

end

/-- A number opens with a digit or with its sign. -/
theorem NumberParts.Valid.opens {n : NumberParts} (h : n.Valid) (negative : Bool) :
    ∃ c cs, n.signed negative = c :: cs ∧ OpensValue c ∧ c ∉ ['"', '[', '\x7b'] := by
  obtain ⟨d, ds, hds⟩ := List.exists_cons_of_ne_nil h.nonempty
  have hd : d.isDigit = true := h.digits d (by simp [hds])
  cases negative with
  | true => exact ⟨'-', n.chars, rfl, .inr (by simp), by simp⟩
  | false =>
    refine ⟨d, ds ++ (n.fraction ++ n.exponent), by simp [signed, chars, hds], .inl hd, ?_⟩
    intro hm
    have hall : ∀ c ∈ ['"', '[', '\x7b'], c.isDigit = false := by simp
    rw [hall d hm] at hd
    cases hd

/-! ## Integers -/

theorem digits_allDigits (n : Nat) : AllDigits (Decimal.digits n) := by
  have hall : ∀ d : Fin 10, (Decimal.digitChar d).isDigit = true := by decide
  intro c hc
  obtain ⟨d, rfl⟩ := Plan.mem_digits hc
  exact hall d

/-- Only zero is written with a zero in front. -/
theorem eq_zero_of_head_digits {n : Nat} (h : (Decimal.digits n).head? = some '0') : n = 0 := by
  rw [Decimal.digits] at h
  split at h
  · next hn =>
    have hall : ∀ d : Fin 10, Decimal.digitChar d = '0' → d.val = 0 := by decide
    exact hall ⟨n, hn⟩ (Option.some.inj h)
  · next hn =>
    rw [List.head?_append_of_ne_nil _ (Decimal.digits_ne_nil _)] at h
    have := eq_zero_of_head_digits h
    omega
termination_by n
decreasing_by omega

theorem valid_digits (n : Nat) : NumberParts.Valid ⟨Decimal.digits n, [], []⟩ := by
  refine ⟨digits_allDigits n, Decimal.digits_ne_nil n, ?_, .inl rfl, .inl rfl⟩
  intro h
  rw [eq_zero_of_head_digits h, Decimal.digits]
  rfl

theorem intDigits_opens (n : Int) :
    ∃ c cs, Decimal.intDigits n = c :: cs ∧ OpensValue c ∧ c ∉ ['"', '[', '\x7b'] := by
  cases n with
  | ofNat n =>
    simpa [NumberParts.signed, NumberParts.chars, Decimal.intDigits] using
      (valid_digits n).opens false
  | negSucc n =>
    simpa [NumberParts.signed, NumberParts.chars, Decimal.intDigits] using
      (valid_digits (n + 1)).opens true

/-- **An integer is read back.** -/
theorem readScalar_intDigits {rest : List Char} (ends : EndsValue rest) (n : Int) :
    readScalar (Decimal.intDigits n ++ rest) = .ok (.int n, rest) := by
  cases n with
  | ofNat n =>
    have hread := readScalar_parts (valid_digits n) ends false
    simpa [NumberParts.signed, NumberParts.chars, NumberParts.json, Decimal.value_digits,
      Decimal.intDigits] using hread
  | negSucc n =>
    have hread := readScalar_parts (valid_digits (n + 1)) ends true
    simpa [NumberParts.signed, NumberParts.chars, NumberParts.json, Decimal.value_digits,
      Decimal.intDigits, Int.negSucc_eq] using hread

/-! ## Parts that were read -/

theorem allDigits_of_digitsOf {cs ds rest : List Char} (h : digitsOf cs = (ds, rest)) :
    AllDigits ds := by
  obtain ⟨rfl, -⟩ := Prod.mk.inj h
  exact fun c hc => List.all_eq_true.1 List.all_takeWhile c hc

theorem digits_of_wholeOf? {cs ds rest : List Char} (h : wholeOf? cs = some (ds, rest)) :
    AllDigits ds ∧ ds ≠ [] ∧ (ds.head? = some '0' → ds = ['0']) := by
  unfold wholeOf? at h
  split at h
  · obtain ⟨rfl, -⟩ := Prod.mk.inj (Option.some.inj h)
    exact ⟨List.forall_mem_singleton.2 rfl, by simp, fun _ => rfl⟩
  · next hzero =>
    split at h
    · cases h
    · next hne =>
      have hdigits := Option.some.inj h
      refine ⟨allDigits_of_digitsOf hdigits, fun he => hne rest (by rw [hdigits, he]), ?_⟩
      intro hhead
      -- the digits begin as the text does, and that begins with no zero
      obtain ⟨hds, -⟩ := Prod.mk.inj hdigits
      rw [← hds] at hhead
      cases cs with
      | nil => cases hhead
      | cons c cs =>
        rw [List.takeWhile_cons] at hhead
        split at hhead
        · obtain rfl := Option.some.inj hhead
          exact absurd rfl (hzero cs)
        · cases hhead

theorem fraction_of_fractionOf {cs fraction rest : List Char}
    (h : fractionOf cs = (fraction, rest)) :
    fraction = [] ∨ ∃ ds, fraction = '.' :: ds ∧ AllDigits ds ∧ ds ≠ [] := by
  unfold fractionOf at h
  split at h
  · split at h
    · exact .inl (Prod.mk.inj h).1.symm
    · next ds behind hne hdigits =>
      obtain ⟨rfl, -⟩ := Prod.mk.inj h
      exact .inr ⟨ds, rfl, allDigits_of_digitsOf hdigits, fun he => hne (by rw [he])⟩
  · exact .inl (Prod.mk.inj h).1.symm

theorem exponent_of_exponentOf {cs exponent rest : List Char}
    (h : exponentOf cs = (exponent, rest)) :
    exponent = [] ∨ ∃ mark sign ds, exponent = mark :: (sign ++ ds) ∧
      (mark = 'e' ∨ mark = 'E') ∧ sign ∈ [[], ['+'], ['-']] ∧ AllDigits ds ∧ ds ≠ [] := by
  unfold exponentOf at h
  split at h
  · exact .inl (Prod.mk.inj h).1.symm
  · next mark behind =>
    split at h
    · next hmark =>
      simp only at h
      split at h
      · exact .inl (Prod.mk.inj h).1.symm
      · next ds left hne hdigits =>
        obtain ⟨rfl, -⟩ := Prod.mk.inj h
        refine .inr ⟨mark, _, ds, rfl, hmark, ?_, allDigits_of_digitsOf hdigits,
          fun he => hne (by rw [he])⟩
        split <;> simp
    · exact .inl (Prod.mk.inj h).1.symm

theorem exists_parts_of_readUnsigned? {negative : Bool} {cs rest : List Char} {v : Json}
    (h : readUnsigned? negative cs = some (v, rest)) :
    ∃ n : NumberParts, v = n.json negative ∧ n.Valid := by
  unfold readUnsigned? at h
  split at h
  · cases h
  · next whole behind hwhole =>
    obtain ⟨hdigits, hne, hzero⟩ := digits_of_wholeOf? hwhole
    refine ⟨⟨whole, (fractionOf behind).1, (exponentOf (fractionOf behind).2).1⟩, ?_,
      hdigits, hne, hzero, fraction_of_fractionOf rfl, exponent_of_exponentOf rfl⟩
    simp only at h
    split at h
    · next hnone =>
      obtain ⟨rfl, -⟩ := Prod.mk.inj (Option.some.inj h)
      rw [NumberParts.json, if_pos hnone]
    · next hsome =>
      obtain ⟨rfl, -⟩ := Prod.mk.inj (Option.some.inj h)
      rw [NumberParts.json, if_neg hsome]
      simp [NumberParts.signed, NumberParts.chars]

/-! ## Numbers that keep their texts -/

theorem return_not_mem_digits {ds : List Char} (h : AllDigits ds) : '\r' ∉ ds :=
  fun hm => by cases h _ hm

theorem NumberParts.Valid.line {n : NumberParts} (h : n.Valid) (negative : Bool) :
    '\r' ∉ n.signed negative := by
  have hwhole := return_not_mem_digits h.digits
  have hfraction : '\r' ∉ n.fraction := by
    rcases h.fraction with hf | ⟨ds, hf, hds, -⟩
    · simp [hf]
    · simp [hf, return_not_mem_digits hds]
  have hexponent : '\r' ∉ n.exponent := by
    rcases h.exponent with he | ⟨mark, sign, ds, he, hmark, hsign, hds, -⟩
    · simp [he]
    · simp only [List.mem_cons, List.not_mem_nil, or_false] at hsign
      rcases hmark with rfl | rfl <;> rcases hsign with rfl | rfl | rfl <;>
        simp [he, return_not_mem_digits hds]
  cases negative <;> simp [signed, chars, hwhole, hfraction, hexponent]

/-- **A number that is no integer is read back as its text.** -/
theorem NumberParts.Valid.numberText {n : NumberParts} {negative : Bool} {text : String}
    (h : n.Valid) (hjson : n.json negative = .decimal text) : NumberText text := by
  have hread := fun {rest : List Char} (ends : EndsValue rest) => readScalar_parts h ends negative
  rw [hjson] at hread
  rw [json] at hjson
  split at hjson
  · cases hjson
  · obtain rfl := Json.decimal.inj hjson
    exact ⟨by simpa using h.opens negative, by simpa using h.line negative,
      fun rest ends => by simpa using hread ends⟩

theorem numberText_word {text : String} (h : text ∈ ["NaN", "Infinity", "-Infinity"]) :
    NumberText text := by
  simp only [List.mem_cons, List.not_mem_nil, or_false] at h
  rcases h with rfl | rfl | rfl
  · exact ⟨⟨'N', _, rfl, .inr (by simp), by simp⟩, by simp,
      fun rest _ => by simp [readScalar, words, dropPrefix?]⟩
  · exact ⟨⟨'I', _, rfl, .inr (by simp), by simp⟩, by simp,
      fun rest _ => by simp [readScalar, words, dropPrefix?]⟩
  · exact ⟨⟨'-', _, rfl, .inr (by simp), by simp⟩, by simp,
      fun rest _ => by simp [readScalar, words, dropPrefix?]⟩

end Acceptance.Json
