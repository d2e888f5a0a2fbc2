import Acceptance.Proofs.Plan.Calls
import Acceptance.Proofs.Plan.LegalNames
import Acceptance.Proofs.Source.Evaluation

/-!
# Values that steps pass

In a test of an outline each parameter has the cell of a row as its value.  A text of a step that is
a reference to a column as a whole is then passed as the row's cell, read as a number where the step
method asks for one.  Any other text is passed as it stands: the number that it writes, or the text
itself with the references in it.

    wholeReference? value = some column ↔ IsReference value column        (wholeReference?_eq_some_iff)
    Passed cell? ρ typeName value (.ofText value typeName o)                            (passed_ofText)
    Document.read text = .ok (some f) → convert c fileName (some f) = .ok p →
      Forall₂ (PassesRows c) (allScenarios f) p.scenarios                          (passesRows_of_read)
-/

namespace Acceptance.Plan

open Acceptance.Text Acceptance.Source

/-! ## Algorithm -/

/-- A text that is a reference to a column and nothing else. -/
structure IsReference (value column : String) : Prop where
  brackets : value = "<" ++ column ++ ">"
  named : column ≠ ""
  plain : ∀ c ∈ column.toList, c ≠ '<' ∧ c ≠ '>'

/-- The cell of a row under the last of the columns with a header. -/
def cellUnder? (top row : List String) (column : String) : Option String :=
  ((top.zip row).reverse.find? fun x => x.1 == column).map (·.2)

/-- What a text becomes for a parameter of a type. -/
def converted (typeName cell : String) : Option Value :=
  match builtin? typeName with
  | some g => g (.text cell)
  | none => some (.text cell)

/-- No value hides the function of a type. -/
def Unhidden (ρ : Names) (typeName : String) : Prop :=
  (builtin? typeName).isSome = true → ρ typeName = none

/-- What the expression for a text passes to a parameter of a type, where the names have the values
`ρ` and the columns the cells `cell?`. -/
structure Passed (cell? : String → Option String) (ρ : Names) (typeName value : String)
    (e : Expression) : Prop where
  /-- A reference as a whole passes the cell of its column. -/
  reference : ∀ column cell, IsReference value column → cell? column = some cell →
    Unhidden ρ typeName → evaluate ρ e.source = converted typeName cell
  /-- A text that writes a number passes the number that `int` or `float` makes of it. -/
  integer : ∀ (sign : Sign) (n : Numeral), n.Readable → n.isInteger = true → typeName = "int" →
    value = .ofList (sign.chars ++ n.chars) →
      ∃ k, evaluate ρ e.source = some (.integer k) ∧ intOf? value = some k
  real : ∀ (sign : Sign) (n : Numeral), n.Readable → typeName = "float" →
    value = .ofList (sign.chars ++ n.chars) →
      ∃ v x, evaluate ρ e.source = some v ∧ v.number? = some x ∧ floatOf? value = some x
  /-- Any other text passes itself. -/
  text : (∀ column, IsReference value column → cell? column = none) →
    (∀ t, NumberType.ofName? typeName = some t → t.accepts value = false) →
      evaluate ρ e.source = some (.text value)

/-- The parameters have the cells of a row as their values. -/
def Binds (ρ : Names) (parameters : List Parameter) (cells : List String) : Prop :=
  ∀ x ∈ parameters.zip cells, ρ (normalForm x.1.name) = some (.text x.2)

/-- A step that passes what a definition captures from its text. -/
def Step.Passes (cell? : String → Option String) (ρ : Names) (d : StepDefinition) (x : Step) : Prop :=
  ∀ (i : Nat) (value : String), (capturedTexts d x.text)[i]? = some value →
    ∃ p a, d.parameters[i]? = some p ∧ x.arguments[i]? = some a ∧
      Passed cell? ρ p.typeName value a.expression

/-- A plan of a scenario whose steps pass the cells of each row in its test. -/
structure PassesRows (c : Catalog) (s : Gherkin.Scenario) (q : Scenario) : Prop where
  passes : ∀ e ∈ s.examples, ∀ top, e.header = some top → ∀ row ∈ e.body, ∀ ρ,
    Binds ρ q.parameters (rowTexts row) →
      List.Forall₂ (fun (l : Occurrence) (x : Step) =>
        ∀ d, c.find? l.kind.word l.line.text = some d →
          x.Passes (cellUnder? (rowTexts top) (rowTexts row)) ρ d) (occurrences s.steps) q.steps
  /-- No literal is a reference to a column as a whole. -/
  literals : ∀ e ∈ s.examples, ∀ top, e.header = some top → ∀ column ∈ rowTexts top,
    ∀ x ∈ q.steps, ∀ a ∈ x.arguments, ∀ text, a.expression = .literal text →
      ¬ IsReference text column

/-! ## References -/

theorem wholeReference?_eq_some_iff {value column : String} :
    wholeReference? value = some column ↔ IsReference value column := by
  constructor
  · intro h
    unfold wholeReference? at h
    split at h
    · next rest hrest =>
      have hsplit := List.takeWhile_append_dropWhile (p := fun c => c != '<' && c != '>') (l := rest)
      have hplain := List.all_takeWhile (p := fun c => c != '<' && c != '>') (l := rest)
      simp only at h
      generalize rest.takeWhile (fun c => c != '<' && c != '>') = name at h hsplit hplain
      generalize rest.dropWhile (fun c => c != '<' && c != '>') = behind at hsplit
      split at h
      · next hname =>
        obtain rfl := Option.some.inj h
        rw [← hsplit, List.drop_left] at hname
        simp only [Bool.and_eq_true, Bool.not_eq_true', List.isEmpty_eq_false_iff, beq_iff_eq]
          at hname
        -- the name ends at the first bracket, and nothing is behind that
        obtain ⟨hne, rfl⟩ := hname
        refine ⟨String.toList_injective ?_, fun he => hne ?_, fun c hc => ?_⟩
        · rw [hrest, ← hsplit]
          simp
        · exact String.ofList_injective he
        · rw [String.toList_ofList] at hc
          simpa using List.all_eq_true.1 hplain c hc
      · cases h
    · cases h
  · rintro ⟨rfl, hne, hplain⟩
    have hinside : ∀ c ∈ column.toList, (c != '<' && c != '>') = true := by
      intro c hc
      simp [hplain c hc]
    obtain ⟨htake, -⟩ := @takeWhile_stop _ column.toList ['>'] hinside (by simp)
    have hchars : ("<" ++ column ++ ">").toList = '<' :: (column.toList ++ ['>']) := by simp
    have hnonempty : column.toList.isEmpty = false := by
      rw [List.isEmpty_eq_false_iff]
      exact fun he => hne (String.toList_injective he)
    rw [wholeReference?, hchars]
    simp only [htake, hnonempty, List.drop_left, String.ofList_toList]
    rfl

/-! ## Numbers -/

theorem isDecimalDigit_of_isDigit {c : Char} (hc : c.isDigit = true) : isDecimalDigit c = true := by
  have hall : ∀ d : Fin 10, isDecimalDigit (Decimal.digitChar d) = true := by decide
  obtain ⟨d, rfl⟩ := exists_digitChar hc
  exact hall d

theorem span_digits {ds rest : List Char} (hds : AllDigits ds)
    (hrest : ∀ c ∈ rest.head?, c ∈ ['.', 'e', 'E']) :
    (ds ++ rest).takeWhile isDecimalDigit = ds ∧ (ds ++ rest).dropWhile isDecimalDigit = rest := by
  have hmarks : ['.', 'e', 'E'].any isDecimalDigit = false := by decide
  exact takeWhile_stop (fun c hc => isDecimalDigit_of_isDigit (hds c hc))
    fun c hc => Bool.eq_false_iff.2 (List.any_eq_false.1 hmarks c (hrest c hc))

theorem isDigits_digits {ds : List Char} (h : AllDigits ds) (hne : ds ≠ []) : isDigits ds = true := by
  simp only [isDigits, Bool.and_eq_true, Bool.not_eq_true', List.isEmpty_eq_false_iff,
    List.all_eq_true]
  exact ⟨hne, fun c hc => isDecimalDigit_of_isDigit (h c hc)⟩

theorem dropSign_eq (cs : List Char) : dropSign cs = (splitSign cs).2 := by
  unfold dropSign
  split <;> simp_all [splitSign]

section
variable {n : Numeral} (h : n.Valid)

include h

theorem mem_signed (sign : Sign) {c : Char} (hc : c ∈ sign.chars ++ n.chars) :
    c.isDigit = true ∨ c ∈ ['.', 'e', 'E', '+', '-'] := by
  rcases List.mem_append.1 hc with hc | hc
  · cases sign <;> simp_all [Sign.chars]
  · exact mem_chars h hc

theorem not_mem_signed (sign : Sign) {c : Char} (hc : c ∈ ['<', '\n']) : c ∉ sign.chars ++ n.chars := by
  intro hm
  have hmark := mem_signed h sign hm
  simp only [List.mem_cons, List.not_mem_nil, or_false] at hc
  rcases hc with rfl | rfl <;> revert hmark <;> decide

/-- A text that writes a number is no reference. -/
theorem wholeReference?_numeral {sign : Sign} {text : String} (hw : WritesNumeral sign n text.toList) :
    wholeReference? text = none := by
  rw [Option.eq_none_iff_forall_ne_some]
  intro column hcolumn
  obtain ⟨rfl, -, -⟩ := wholeReference?_eq_some_iff.1 hcolumn
  have hopen : '<' ∈ ("<" ++ column ++ ">").toList := by simp
  generalize ("<" ++ column ++ ">").toList = cs at hw hopen
  have hnone := not_mem_signed h sign (by simp : '<' ∈ _)
  cases hw with
  | plain => exact hnone hopen
  | feed => exact hnone (by simpa using hopen)

theorem dropSign_numeral {sign : Sign} {cs : List Char} (hw : WritesNumeral sign n cs) :
    dropSign (dropLineFeed cs) = n.chars := by
  have hfeed : (sign.chars ++ n.chars).getLast? ≠ some '\n' :=
    fun hl => not_mem_signed h sign (by simp : '\n' ∈ _) (List.mem_of_getLast? hl)
  have hdrop : dropLineFeed cs = sign.chars ++ n.chars := by
    cases hw with
    | plain => rw [dropLineFeed, if_neg hfeed]
    | feed => rw [dropLineFeed, if_pos List.getLast?_concat, List.dropLast_concat]
  rw [hdrop, dropSign_eq, splitSign_signed h]

theorem accepts_integer {sign : Sign} {text : String} (hw : WritesNumeral sign n text.toList)
    (hinteger : n.isInteger = true) : NumberType.integer.accepts text = true := by
  obtain ⟨hchars, hne⟩ := chars_of_isInteger h hinteger
  rw [NumberType.accepts, dropSign_numeral h hw, hchars]
  exact isDigits_digits h.whole hne

theorem isExponent_tail : isExponent n.tail = true := by
  cases he : n.exponent with
  | none => simp [Numeral.tail, he, isExponent]
  | some x =>
    obtain ⟨hmark, hdigits, hne⟩ := h.exponent x he
    have hsplit := splitSign_exponent (h.exponent x he)
    simp only [Numeral.tail, he, Option.map_some, Option.getD_some, Exponent.chars, isExponent,
      dropSign_eq, hsplit, isDigits_digits hdigits hne, Bool.and_true, Bool.or_eq_true, beq_iff_eq]
    exact hmark

theorem accepts_real {sign : Sign} {text : String} (hw : WritesNumeral sign n text.toList) :
    NumberType.real.accepts text = true := by
  rw [NumberType.accepts, dropSign_numeral h hw]
  show isReal n.chars = true
  have htail : ∀ c ∈ n.tail.head?, c ∈ ['.', 'e', 'E'] := by
    intro c hc
    rcases mark_of_tail h c hc with rfl | rfl <;> simp
  have hexponent := isExponent_tail h
  have hnonempty := h.nonempty
  unfold isReal
  rw [Numeral.chars]
  cases hf : n.fraction with
  | none =>
    obtain ⟨htake, hdrop⟩ := span_digits h.whole htail
    simp only [hf, Option.map_none, Option.getD_none, List.nil_append, htake, hdrop] at hnonempty ⊢
    have hwhole : n.whole.isEmpty = false := by simpa using hnonempty
    split
    · next rest hrest =>
      have hpoint := mark_of_tail h '.' (by rw [hrest]; rfl)
      rcases hpoint with hc | hc <;> cases hc
    · rw [hwhole, hexponent]
      rfl
  | some ds =>
    obtain ⟨htake, hdrop⟩ := @span_digits n.whole ('.' :: (ds ++ n.tail)) h.whole (by simp)
    obtain ⟨htake', hdrop'⟩ := span_digits (h.fraction ds hf) htail
    simp only [hf, Option.map_some, Option.getD_some, List.cons_append, htake, hdrop, htake', hdrop',
      hexponent, Bool.and_true] at hnonempty ⊢
    rcases hnonempty with hne | hne
    · simp [hne]
    · simp [hne]

end

/-! ## Expressions -/

theorem ofName?_eq_some {typeName : String} {t : NumberType} (h : NumberType.ofName? typeName = some t) :
    t.name = typeName := by
  simpa using List.find?_some h

theorem builtin?_name (t : NumberType) : ∃ g, builtin? t.name = some g := by
  cases t
  · exact ⟨_, rfl⟩
  · exact ⟨_, rfl⟩

theorem builtin?_eq_none {typeName : String} (h : NumberType.ofName? typeName = none) :
    builtin? typeName = none := by
  have hne : ∀ t ∈ [NumberType.integer, .real], typeName ≠ t.name := by
    intro t ht he
    exact absurd (beq_iff_eq.2 he.symm) (List.find?_eq_none.1 h t ht)
  have hint : typeName ≠ "int" := hne .integer (by simp)
  have hfloat : typeName ≠ "float" := hne .real (by simp)
  rw [builtin?, if_neg hint, if_neg hfloat]

/-- The numbers of a sign's integer. -/
theorem cast_on (sign : Sign) (k : Nat) : ((sign.on (k : Int) : Int) : ℚ) = sign.on (k : ℚ) := by
  cases sign <;> simp [Sign.on, Sign.isNegative]

theorem writesNumeral_ofList (sign : Sign) (n : Numeral) :
    WritesNumeral sign n (String.ofList (sign.chars ++ n.chars)).toList := by
  rw [String.toList_ofList]
  exact .plain

theorem rational_of_isInteger {n : Numeral} (h : n.isInteger = true) :
    n.rational = (Decimal.value n.whole : ℚ) := by
  simp only [Numeral.isInteger, Bool.and_eq_true, Option.isNone_iff_eq_none] at h
  simp [Numeral.rational, h]

/-- The number of a numeral, whole or not. -/
theorem number?_numeral (sign : Sign) (n : Numeral) :
    (if n.isInteger then Value.integer (sign.on (Decimal.value n.whole : Int))
      else .real (.finite (sign.on n.rational))).number? = some (.finite (sign.on n.rational)) := by
  split
  · next hinteger => rw [Value.number?, cast_on, rational_of_isInteger hinteger]
  · rfl

/-- A text that refers to no column is written as it is. -/
theorem ofText_of_no_column {o : Outline} {value typeName : String} {e : Expression}
    (hvalue : (wholeReference? value).bind o.parameter? = none)
    (he : ((NumberType.ofName? typeName).map fun t =>
      if t.accepts value then Expression.verbatim value else .literal value).getD (.literal value) = e) :
    Expression.ofText value typeName o = e := by
  rw [Expression.ofText, hvalue, ← he]
  cases NumberType.ofName? typeName <;> rfl

theorem ofText_numeral {t : NumberType} (o : Outline) {sign : Sign} {n : Numeral} {text : String}
    (h : n.Valid) (hw : WritesNumeral sign n text.toList) (haccepts : t.accepts text = true) :
    Expression.ofText text t.name o = .verbatim text := by
  refine ofText_of_no_column (by rw [wholeReference?_numeral h hw]; rfl) ?_
  have hname : NumberType.ofName? t.name = some t := by cases t <;> rfl
  rw [hname, Option.map_some, Option.getD_some, if_pos haccepts]

section
variable {o : Outline} {cell? : String → Option String} {ρ : Names}

/-- The expression for a reference to a column; a value with the name of the type hides the
function that it calls. -/
theorem evaluate_reference {value column cell name typeName : String}
    (hvalue : wholeReference? value = some column) (hname : o.parameter? column = some name)
    (hlegal : LegalName isReserved name) (hcell : ρ (normalForm name) = some (.text cell)) :
    evaluate ρ (Expression.ofText value typeName o).source =
      if (builtin? typeName).isSome && (ρ typeName).isSome then none else converted typeName cell := by
  rw [Expression.ofText, hvalue, Option.bind_some, hname]
  cases ht : NumberType.ofName? typeName with
  | none =>
    show evaluate ρ name = _
    rw [converted, builtin?_eq_none ht, evaluate_name ρ hlegal.identifier hlegal.free, hcell]
    rfl
  | some t =>
    obtain rfl := ofName?_eq_some ht
    obtain ⟨g, hg⟩ := builtin?_name t
    show evaluate ρ (t.name ++ "(" ++ name ++ ")") = _
    rw [evaluate_call ρ hlegal.identifier hlegal.free hg, hcell, converted, hg]
    rfl

/-- **What is passed for a text.** -/
theorem passed_ofText {value typeName : String}
    (hcells : ∀ column cell, cell? column = some cell → ∃ name, o.parameter? column = some name ∧
      LegalName isReserved name ∧ ρ (normalForm name) = some (.text cell))
    (hnone : ∀ column, cell? column = none → o.parameter? column = none) :
    Passed cell? ρ typeName value (.ofText value typeName o) where
  reference column cell hvalue hcell hunhidden := by
    obtain ⟨name, hname, hlegal, hρ⟩ := hcells column cell hcell
    rw [evaluate_reference (wholeReference?_eq_some_iff.2 hvalue) hname hlegal hρ, if_neg]
    intro hhidden
    obtain ⟨hbuiltin, hvalued⟩ := Bool.and_eq_true_iff.1 hhidden
    rw [hunhidden hbuiltin] at hvalued
    cases hvalued
  integer := by
    rintro sign n hreadable hinteger rfl rfl
    have hvalid := hreadable.toValid
    have hw := writesNumeral_ofList sign n
    have hverbatim := ofText_numeral o hvalid hw (accepts_integer hvalid hw hinteger)
    refine ⟨_, ?_, intOf?_numeral hvalid hw hinteger (hreadable.short hinteger)⟩
    rw [show "int" = NumberType.integer.name from rfl, hverbatim, Expression.source,
      evaluate_numeral ρ sign hw hreadable, if_pos hinteger]
  real := by
    rintro sign n hreadable rfl rfl
    have hvalid := hreadable.toValid
    have hw := writesNumeral_ofList sign n
    have hverbatim := ofText_numeral o hvalid hw (accepts_real hvalid hw)
    rw [show "float" = NumberType.real.name from rfl, hverbatim, Expression.source]
    exact ⟨_, .finite (sign.on n.rational), evaluate_numeral ρ sign hw hreadable,
      number?_numeral sign n, floatOf?_numeral hvalid hw⟩
  text hreference hnumber := by
    have hexpression : Expression.ofText value typeName o = .literal value := by
      refine ofText_of_no_column ?_ ?_
      · cases hv : wholeReference? value with
        | none => rfl
        | some column => exact hnone column (hreference column (wholeReference?_eq_some_iff.1 hv))
      · cases ht : NumberType.ofName? typeName with
        | none => rfl
        | some t => simp [hnumber t ht]
    rw [hexpression, Expression.source]
    exact evaluate_quote ρ value

/-- A text that is written as a literal refers to no column. -/
theorem parameter?_of_literal {value typeName column text : String}
    (h : Expression.ofText value typeName o = .literal text) (htext : IsReference text column) :
    o.parameter? column = none := by
  unfold Expression.ofText at h
  split at h
  · cases h
  · cases h
  · next hnone _ =>
    split at h
    · cases h
    · obtain rfl := Expression.literal.inj h
      rwa [wholeReference?_eq_some_iff.2 htext] at hnone
  · next hnone _ =>
    obtain rfl := Expression.literal.inj h
    rwa [wholeReference?_eq_some_iff.2 htext] at hnone

end

/-! ## Rows -/

section
variable {o : Outline} {cells : List String} {column : String}

theorem cellUnder?_outline : cellUnder? (o.map (·.header)) cells column =
    ((o.zip cells).reverse.find? fun x => x.1.header == column).map (·.2) := by
  rw [cellUnder?, List.zip_map_left, ← List.map_reverse, List.find?_map, Option.map_map]
  rfl

/-- The parameter and the cell of a column stand at one place, of equal headers the last. -/
theorem parameter?_eq_zip (h : o.length ≤ cells.length) : o.parameter? column =
    ((o.zip cells).reverse.find? fun x => x.1.header == column).map (·.1.parameter) := by
  conv_lhs => rw [← List.map_fst_zip h]
  rw [Outline.parameter?, ← List.map_reverse, List.find?_map, Option.map_map]
  rfl

theorem parameter?_of_cellUnder? (h : o.length ≤ cells.length) {cell : String}
    (hcell : cellUnder? (o.map (·.header)) cells column = some cell) :
    ∃ k, (k, cell) ∈ o.zip cells ∧ o.parameter? column = some k.parameter := by
  rw [cellUnder?_outline] at hcell
  obtain ⟨⟨k, cell⟩, hfind, rfl⟩ := Option.map_eq_some_iff.1 hcell
  refine ⟨k, List.mem_reverse.1 (List.mem_of_find?_eq_some hfind), ?_⟩
  rw [parameter?_eq_zip h, hfind]
  rfl

theorem parameter?_of_cellUnder?_none (h : o.length ≤ cells.length)
    (hcell : cellUnder? (o.map (·.header)) cells column = none) : o.parameter? column = none := by
  rw [cellUnder?_outline, Option.map_eq_none_iff] at hcell
  rw [parameter?_eq_zip h, hcell]
  rfl

theorem parameter?_isSome (h : column ∈ o.map (·.header)) : o.parameter? column ≠ none := by
  obtain ⟨k, hk, rfl⟩ := List.mem_map.1 h
  rw [Outline.parameter?, ne_eq, Option.map_eq_none_iff, List.find?_eq_none]
  exact fun hnone => hnone k (List.mem_reverse.2 hk) (beq_self_eq_true _)

end

/-! ## Top theorem -/

section
variable {source : List Char} {c : Catalog} {stubs : List Stub} {method : String}
  {s : Gherkin.Scenario}

/-- The argument for a captured text of a line that passes the test of its arity. -/
theorem argument_of_captured {l : Occurrence} {d : StepDefinition} (o : Outline)
    (hfind : c.find? l.kind.word l.line.text = some d)
    (hfault : (l.trial c stubs).fault = none) {i : Nat} {value : String}
    (hvalue : (capturedTexts d l.line.text)[i]? = some value) :
    ∃ p, d.parameters[i]? = some p ∧
      (l.plan c stubs o).arguments[i]? = some ⟨value, .ofText value p.typeName o⟩ := by
  have hsupplied := supplied_of_arityFault? (arityFault?_of_trial hfind hfault)
  obtain ⟨hi, hget⟩ := List.getElem?_eq_some_iff.1 hvalue
  have hlt : i < d.parameters.length :=
    Nat.lt_of_lt_of_le hi (hsupplied ▸ Nat.le_add_right (capturedTexts d l.line.text).length _)
  have hp := List.getElem?_eq_getElem hlt
  refine ⟨d.parameters[i], hp, ?_⟩
  have harguments : (l.plan c stubs o).arguments =
      placeholderArguments ⟨d, capturedTexts d l.line.text⟩ o ++ tableArguments l.table? := by
    rw [Occurrence.plan, resolution?_of_find? hfind]
    exact callArguments_eq o hsupplied
  rw [harguments, List.getElem?_append_left (by rwa [length_placeholderArguments o hsupplied]),
    placeholderArguments, List.getElem?_map, (List.getElem?_zip_eq_some (z := (value, _))).2 ⟨hvalue, hp⟩]
  rfl

theorem columnFaults_of_trials (htrials : ∀ t ∈ scenarioTrials c stubs s, t.fault = none) :
    columnFaults s.name s.examples = [] := by
  refine List.eq_nil_iff_forall_not_mem.2 fun fault hfault => ?_
  cases htrials _ (List.mem_append_left _ (List.mem_map_of_mem (f := faultTrial) hfault))

/-- The texts of a header are the columns of the outline. -/
theorem rowTexts_header (hs : s.Regular source) (hfaults : columnFaults s.name s.examples = [])
    {e : Gherkin.Examples} (he : e ∈ s.examples) {top : Gherkin.Row} (htop : e.header = some top) :
    rowTexts top = (outlineOf s.examples).map (·.header) := by
  rw [headers_outlineOf, rowTexts, cellsOf_header hs.examples hfaults e he top htop, List.map_map]
  exact List.map_id _

/-- A column with a cell has a parameter with that cell as its value. -/
theorem parameter?_of_binds {ρ : Names} {cells : List String}
    (hρ : Binds ρ (planScenario c stubs method s).parameters cells)
    (hlen : (outlineOf s.examples).length ≤ cells.length) {column cell : String}
    (hcell : cellUnder? ((outlineOf s.examples).map (·.header)) cells column = some cell) :
    ∃ name, (outlineOf s.examples).parameter? column = some name ∧ LegalName isReserved name ∧
      ρ (normalForm name) = some (.text cell) := by
  obtain ⟨k, hk, hparameter⟩ := parameter?_of_cellUnder? hlen hcell
  have hmem : ((⟨.text, k.parameter⟩, cell) : Parameter × String) ∈
      (planScenario c stubs method s).parameters.zip cells := by
    rw [planScenario, List.zip_map_left]
    exact List.mem_map.2 ⟨(k, cell), hk, rfl⟩
  have hlegal := (legalParameters_planScenario c stubs method s).legal _ (List.of_mem_zip hmem).1
  exact ⟨k.parameter, hparameter, hlegal, hρ _ hmem⟩

theorem passesRows_planScenario (hs : s.Regular source)
    (htrials : ∀ t ∈ scenarioTrials c stubs s, t.fault = none) :
    PassesRows c s (planScenario c stubs method s) := by
  have hfaults := columnFaults_of_trials htrials
  refine ⟨fun e he top htop row hrow ρ hρ => ?_, fun e he top htop column hcolumn => ?_⟩
  · obtain ⟨-, -, hwidth⟩ := readLiterals_row hs hfaults (List.mem_flatMap.2 ⟨e, he, hrow⟩)
    have hlen : (outlineOf s.examples).length ≤ (rowTexts row).length := by
      rw [hwidth, ← headers_outlineOf, List.length_map]
    rw [rowTexts_header hs hfaults he htop]
    refine List.forall₂_map_right_iff.2 (List.forall₂_same.2 fun l hl d hfind i value hvalue => ?_)
    have hfault := htrials _ (List.mem_append_right _ (List.mem_map_of_mem hl))
    have htext : (l.plan c stubs (outlineOf s.examples)).text = l.line.text :=
      (PlanLine.step_text_table c stubs ⟨outlineOf s.examples, l⟩).1
    rw [htext] at hvalue
    obtain ⟨p, hp, ha⟩ := argument_of_captured (outlineOf s.examples) hfind hfault hvalue
    exact ⟨p, _, hp, ha, passed_ofText (fun _ _ hcell => parameter?_of_binds hρ hlen hcell)
      fun _ hcell => parameter?_of_cellUnder?_none hlen hcell⟩
  · intro x hx a ha text hliteral htext
    obtain ⟨l, -, rfl⟩ := List.mem_map.1 hx
    rw [rowTexts_header hs hfaults he htop] at hcolumn
    rcases argument_of_plan c stubs _ l ha with ⟨typeName, hexpression⟩ | ⟨-, hnone⟩
    · exact parameter?_isSome hcolumn (parameter?_of_literal (hexpression.symm.trans hliteral) htext)
    · exact hnone text hliteral

end

/-- **Steps pass the cells of a row.** -/
theorem passesRows_of_read {c : Catalog} {fileName text : String} {f : Gherkin.Feature} {p : Plan}
    (hread : Gherkin.Document.read text = .ok (some f)) (hp : convert c fileName (some f) = .ok p) :
    List.Forall₂ (PassesRows c) (allScenarios f) p.scenarios := by
  obtain ⟨hfaults, rfl⟩ := convert_some_eq_ok_iff.1 hp
  have hgathered := gatheredScenarios_of_shaped (Gherkin.Document.read_shaped hread)
  have hscenarios : ∀ s ∈ allScenarios f, s.Regular text.toList ∧
      ∀ t ∈ scenarioTrials c (stubsOf c f) s, t.fault = none := by
    intro s hs
    rw [← hgathered] at hs
    exact ⟨regular_of_mem_gathered (Gherkin.Document.read_regular hread) hs,
      fun t ht => hfaults t (scenarioTrials_subset c hs ht)⟩
  have hplanned := scenarios_plan c fileName f
  rw [hgathered] at hplanned
  refine ((List.forall₂_and_left _ _).2 ⟨hscenarios, hplanned⟩).imp ?_
  rintro s q ⟨⟨hregular, htrials⟩, method, rfl⟩
  exact passesRows_planScenario hregular htrials

/-- A definition that asks for a number and for a text. -/
def orderDefinition : StepDefinition :=
  { kind := .action, pattern := "I order \x7bcount\x7d of \x7bitem\x7d", owner := "Orders",
    module := "steps", method := "order", parameters := [⟨"int", "count"⟩, ⟨"str", "item"⟩] }

def orderText : String := String.join [
  "Feature: Orders\n",
  "Scenario Outline: Order\n",
  "When I order <count> of \"<item>\"\n",
  "Examples:\n",
  "| count | item |\n",
  "| 2 | tea |\n"]

def orderFeature : Gherkin.Feature :=
  { tags := [], language := "en", keyword := "Feature", name := "Orders", description := "",
    children := [.scenario
      { tags := [], keyword := "Scenario Outline", name := "Order", description := "",
        steps := [⟨"When ", .kind .action, "I order <count> of \"<item>\"", none⟩],
        examples := [⟨[], "Examples", "", "", some [⟨some "count"⟩, ⟨some "item"⟩],
          [[⟨some "2"⟩, ⟨some "tea"⟩]]⟩] }] }

/-- The names of the test of the only row. -/
def orderNames : Names
  | "count" => some (.text "2")
  | "item" => some (.text "tea")
  | _ => none

theorem orderText_passes :
    ∃ p q x a b, Gherkin.Document.read orderText = .ok (some orderFeature) ∧
      convert [orderDefinition] "orders" (some orderFeature) = .ok p ∧ p.scenarios = [q] ∧
      q.steps = [x] ∧ x.arguments[0]? = some a ∧ x.arguments[1]? = some b ∧
      evaluate orderNames a.expression.source = some (.integer 2) ∧
      evaluate orderNames b.expression.source = some (.text "tea") := by
  have hread : Gherkin.Document.read orderText = .ok (some orderFeature) := by
    rw [Gherkin.Document.read, Gherkin.linesOf, orderText, String.toList_join]
    decide +kernel
  have hc : convert [orderDefinition] "orders" (some orderFeature) =
      .ok (plan [orderDefinition] "orders" orderFeature) :=
    convert_some_eq_ok_iff.2 ⟨by decide +kernel, rfl⟩
  obtain ⟨q, qs, hq, hqs, hscenarios⟩ := List.forall₂_cons_left_iff.1 (passesRows_of_read hread hc)
  obtain rfl := List.forall₂_nil_left_iff.1 hqs
  have hplan : (plan [orderDefinition] "orders" orderFeature).scenarios.map
      (fun q => (q.parameters, q.steps.map (·.text))) =
        [([⟨.text, "count"⟩, ⟨.text, "item"⟩], ["I order <count> of \"<item>\""])] := by decide +kernel
  rw [hscenarios, List.map_singleton, List.singleton_inj, Prod.mk.injEq] at hplan
  have hbinds : Binds orderNames q.parameters (rowTexts [⟨some "2"⟩, ⟨some "tea"⟩]) := by
    rw [hplan.1]
    unfold Binds
    decide +kernel
  have hfind : Catalog.find? [orderDefinition] StepKind.action.word "I order <count> of \"<item>\"" =
      some orderDefinition := by decide +kernel
  have hpasses := hq.passes _ (List.mem_singleton_self _) _ rfl _ (List.mem_singleton_self _) _ hbinds
  obtain ⟨x, xs, hx, hxs, hsteps⟩ := List.forall₂_cons_left_iff.1 hpasses
  obtain rfl := List.forall₂_nil_left_iff.1 hxs
  have hx := hx _ hfind
  rw [hsteps, List.map_singleton, List.singleton_inj] at hplan
  rw [Step.Passes, hplan.2] at hx
  obtain ⟨p, a, hp, ha, hcount⟩ := hx 0 "<count>" (by decide +kernel)
  obtain ⟨r, b, hr, hb, hitem⟩ := hx 1 "<item>" (by decide +kernel)
  obtain rfl : ⟨"int", "count"⟩ = p := Option.some.inj hp
  obtain rfl : ⟨"str", "item"⟩ = r := Option.some.inj hr
  refine ⟨_, q, x, a, b, hread, hc, hscenarios, hsteps, ha, hb, ?_, ?_⟩
  · rw [hcount.reference "count" "2" (wholeReference?_eq_some_iff.1 (by decide +kernel))
      (by decide +kernel) fun _ => rfl]
    decide +kernel
  · rw [hitem.reference "item" "tea" (wholeReference?_eq_some_iff.1 (by decide +kernel))
      (by decide +kernel) fun h => absurd h (by decide)]
    decide +kernel

/-- A definition that asks for a text. -/
def helloDefinition : StepDefinition :=
  { kind := .action, pattern := "I say \x7btext\x7d", owner := "Voice", module := "steps",
    method := "say", parameters := [⟨"str", "text"⟩] }

/-- An outline whose only reference has a text around it. -/
def helloText : String := String.join [
  "Feature: Greeting\n",
  "Scenario Outline: Hello\n",
  "When I say \"hello <name>\"\n",
  "Examples:\n",
  "| name |\n",
  "| Ann |\n"]

def helloFeature : Gherkin.Feature :=
  { tags := [], language := "en", keyword := "Feature", name := "Greeting", description := "",
    children := [.scenario
      { tags := [], keyword := "Scenario Outline", name := "Hello", description := "",
        steps := [⟨"When ", .kind .action, "I say \"hello <name>\"", none⟩],
        examples := [⟨[], "Examples", "", "", some [⟨some "name"⟩], [[⟨some "Ann"⟩]]⟩] }] }

/-- A reference with a text around it is passed as it stands, whatever the cell of its column. -/
theorem helloText_keeps_reference :
    ∃ p q x a, Gherkin.Document.read helloText = .ok (some helloFeature) ∧
      convert [helloDefinition] "hello" (some helloFeature) = .ok p ∧ p.scenarios = [q] ∧
      q.parameters = [⟨.text, "name"⟩] ∧ q.cases = [[some "Ann"]] ∧ q.steps = [x] ∧
      x.arguments = [a] ∧ a.expression = .literal "hello <name>" ∧
      ∀ ρ : Names, ρ "name" = some (.text "Ann") →
        evaluate ρ a.expression.source ≠ some (.text "hello Ann") := by
  have hread : Gherkin.Document.read helloText = .ok (some helloFeature) := by
    rw [Gherkin.Document.read, Gherkin.linesOf, helloText, String.toList_join]
    decide +kernel
  have hc : convert [helloDefinition] "hello" (some helloFeature) =
      .ok (plan [helloDefinition] "hello" helloFeature) :=
    convert_some_eq_ok_iff.2 ⟨by decide +kernel, rfl⟩
  have hplan : (plan [helloDefinition] "hello" helloFeature).scenarios =
      [{ name := "Hello", method := "Hello", remarks := [], isExplicit := false,
         cases := [[some "Ann"]], parameters := [⟨.text, "name"⟩],
         steps := [
           { keyword := "When", text := "I say \"hello <name>\"", owner := "Voice", method := "say",
             arguments := [⟨"hello <name>", .literal "hello <name>"⟩], table := none }] }] := by
    decide +kernel
  refine ⟨_, _, _, _, hread, hc, hplan, rfl, rfl, rfl, rfl, rfl, fun ρ _ h => ?_⟩
  rw [Expression.source, evaluate_quote] at h
  exact absurd h (by decide)

end Acceptance.Plan
