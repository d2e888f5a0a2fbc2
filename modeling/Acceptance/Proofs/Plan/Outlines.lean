import Acceptance.Plan.Tree
import Acceptance.Proofs.Plan.Texts
import Acceptance.Proofs.Plan.UniqueNames
import Acceptance.Proofs.Source.Quotes
import Mathlib.Data.List.Nodup

/-!
# Outlines

A scenario outline has a parameter for each column and a row of values for each row of its tables.
A reference to a column becomes the parameter of the column, and the text of a row of values,
read as source, has the cells of the row in their order; so the cell of a column goes where the
references to the column are.

    (uniqueAll names).Nodup                                                       (uniqueAll_nodup)
    o.parameter? header = some parameter, where the headers of o differ        (parameter?_of_mem)
    readLiterals (caseText (texts.map some)).toList = some texts                  (readLiterals_caseText)
-/

namespace Acceptance.Plan

open Acceptance.Text Acceptance.Source

/-! ## Algorithm -/

/-- The name that an expression takes its value from. -/
def Expression.parameter? : Expression → Option String
  | named name => some name
  | number _ name => some name
  | _ => none

/-- What makes a scenario the outline that a scenario of the feature asks for, where `columns` are
the headers of its tables of values. -/
structure Outlined (columns : List String) (s : Gherkin.Scenario) (q : Scenario) : Prop where
  /-- All tables of values have these columns. -/
  headers : ∀ e ∈ s.examples, ∀ row, e.header = some row → cellsOf row = columns.map some
  parameters : List.Forall₂ (fun column (p : Parameter) =>
    p.kind = .text ∧ ∃ n, p.name = numbered (parameterName column) n) columns q.parameters
  distinct : (q.parameters.map (·.name)).Nodup
  references : ∀ (i : Nat) column (p : Parameter), columns[i]? = some column → q.parameters[i]? = some p →
    ∀ x ∈ q.steps, ∀ a ∈ x.arguments, wholeReference? a.value = some column →
      a.expression.parameter? = some p.name
  cases : List.Forall₂ (fun row cells => ∃ texts : List String, cellsOf row = texts.map some ∧
    readLiterals (caseText cells).toList = some texts ∧ texts.length = q.parameters.length)
    (s.examples.flatMap (·.body)) q.cases

/-! ## Names -/

theorem uniqueFrom_spec (taken names : List String) :
    (∀ n ∈ uniqueFrom taken names, n ∉ taken) ∧ (uniqueFrom taken names).Nodup ∧
      List.Forall₂ (fun name n => ∃ i, n = numbered name i) names (uniqueFrom taken names) := by
  induction names generalizing taken with
  | nil => exact ⟨nofun, List.nodup_nil, .nil⟩
  | cons name names ih =>
    obtain ⟨hfree, hnodup, hnumbered⟩ := ih (unique name taken :: taken)
    obtain ⟨i, hi, -, -⟩ := unique_spec name taken
    refine ⟨?_, ?_, .cons ⟨i, hi⟩ hnumbered⟩
    · rw [uniqueFrom, List.forall_mem_cons]
      exact ⟨unique_not_mem name taken, fun n hn h => hfree n hn (List.mem_cons_of_mem _ h)⟩
    · exact List.nodup_cons.2 ⟨fun h => hfree _ h List.mem_cons_self, hnodup⟩

theorem length_uniqueAll (names : List String) : (uniqueAll names).length = names.length :=
  (uniqueFrom_spec [] names).2.2.length_eq.symm

/-! ## Columns -/

section
variable (examples : List Gherkin.Examples)

theorem headers_outlineOf : (outlineOf examples).map (·.header) = headerOf examples := by
  have hlen := length_uniqueAll ((headerOf examples).map parameterName)
  rw [List.length_map] at hlen
  rw [outlineOf, List.map_map]
  exact List.map_fst_zip (Nat.le_of_eq hlen.symm)

theorem parameters_outlineOf : (outlineOf examples).map (·.parameter) =
    uniqueAll ((headerOf examples).map parameterName) := by
  have hlen := length_uniqueAll ((headerOf examples).map parameterName)
  rw [List.length_map] at hlen
  rw [outlineOf, List.map_map]
  exact List.map_snd_zip (Nat.le_of_eq hlen)

end

/-- The parameter of a column, where no two columns have one header. -/
theorem parameter?_of_mem {o : Outline} (h : (o.map (·.header)).Nodup) {c : Column} (hc : c ∈ o) :
    o.parameter? c.header = some c.parameter := by
  unfold Outline.parameter?
  cases hf : o.reverse.find? fun d => d.header == c.header with
  | none =>
    have := List.find?_eq_none.1 hf c (List.mem_reverse.2 hc)
    simp at this
  | some d =>
    have hd := List.mem_reverse.1 (List.mem_of_find?_eq_some hf)
    have hheader : d.header = c.header := by simpa using List.find?_some hf
    rw [List.inj_on_of_nodup_map h hd hc hheader]
    rfl

theorem parameter?_ofText {value typeName column name : String} {o : Outline}
    (hvalue : wholeReference? value = some column) (ho : o.parameter? column = some name) :
    (Expression.ofText value typeName o).parameter? = some name := by
  rw [Expression.ofText, hvalue, Option.bind_some, ho]
  cases NumberType.ofName? typeName <;> rfl

/-! ## Arguments -/

/-- A text that opens with no bracket refers to no column. -/
theorem wholeReference?_of_head {value : String} {c : Char} (h : value.toList.head? = some c)
    (hc : c ≠ '<') : wholeReference? value = none := by
  obtain ⟨cs, hcs⟩ := List.head?_eq_some_iff.1 h
  rw [wholeReference?, hcs]
  split
  · next he => exact absurd (List.cons.inj he).1 hc
  · rfl

theorem wholeReference?_variable {l : Occurrence} {t : Table} (h : l.table? = some t) :
    wholeReference? t.variableName = none := by
  obtain ⟨rows, -, rfl⟩ := Option.map_eq_some_iff.1 h
  refine wholeReference?_of_head (c := 't') ?_ (by decide)
  cases rows <;> simp [Table.of]

/-- An argument that stands for a table or for nothing, which is no text of the step. -/
def Argument.IsNoText (a : Argument) : Prop :=
  wholeReference? a.value = none ∧ ∀ text, a.expression ≠ .literal text

/-- An argument stands for a text of the step, for a table or for nothing. -/
theorem argument_of_plan (c : Catalog) (stubs : List Stub) (o : Outline) (l : Occurrence)
    {a : Argument} (ha : a ∈ (l.plan c stubs o).arguments) :
    (∃ typeName, a.expression = .ofText a.value typeName o) ∨ a.IsNoText := by
  unfold Occurrence.plan at ha
  split at ha
  · next r hr =>
    have hvalues : ∀ a ∈ (r.arguments.zip r.definition.parameters).map (fun x =>
        (⟨x.1, .ofText x.1 x.2.typeName o⟩ : Argument)),
        (∃ typeName, a.expression = .ofText a.value typeName o) ∨ a.IsNoText := by
      intro a ha
      obtain ⟨x, -, rfl⟩ := List.mem_map.1 ha
      exact .inl ⟨_, rfl⟩
    simp only [Occurrence.planMatched, Resolution.callArguments] at ha
    split at ha
    · next t ht =>
      split at ha
      · rcases List.mem_append.1 ha with ha | ha
        · exact hvalues a ha
        · obtain rfl := List.mem_singleton.1 ha
          exact .inr ⟨wholeReference?_variable ht, nofun⟩
      · exact hvalues a ha
    · exact hvalues a ha
  · obtain ⟨p, -, rfl⟩ := List.mem_map.1 ha
    unfold stubArgument
    split
    · split
      · next t ht => exact .inr ⟨wholeReference?_variable ht, nofun⟩
      · exact .inr ⟨wholeReference?_of_head (c := 'N') (by simp [Expression.source]) (by decide), nofun⟩
    · dsimp only
      exact .inl ⟨"str", rfl⟩

/-! ## Rows of values -/

/-- **The text of a row of values is read as the row.** -/
theorem readLiterals_caseText (texts : List String) :
    readLiterals (caseText (texts.map some)).toList = some texts := by
  have hquoted : (texts.map some).map (fun v => (v.map quote).getD "null") = texts.map quote := by
    rw [List.map_map]
    exact List.map_congr_left fun _ _ => rfl
  rw [caseText, hquoted, readLiterals_quotes]

/-- The tables of values that are left out have no rows. -/
theorem caseRows_eq {examples : List Gherkin.Examples} (h : ∀ e ∈ examples, e.Regular) :
    caseRows examples = (examples.flatMap (·.body)).map cellsOf := by
  unfold caseRows
  induction examples with
  | nil => rfl
  | cons e examples ih =>
    obtain ⟨he, hes⟩ := List.forall_mem_cons.1 h
    rw [List.flatMap_cons, List.map_append, ← ih hes]
    cases hh : e.header with
    | none =>
      rw [List.filter_cons_of_neg (by simp [hh]), he.headed hh]
      rfl
    | some row => rw [List.filter_cons_of_pos (by simp [hh]), List.flatMap_cons]

/-- The texts of a row of which every cell has one. -/
def rowTexts (row : Gherkin.Row) : List String := (cellsOf row).map fun c => c.getD ""

theorem cellsOf_eq {row : Gherkin.Row} (h : ∀ cell ∈ row, cell.value.isSome = true) :
    cellsOf row = (rowTexts row).map some := by
  rw [rowTexts, cellsOf, List.map_map, List.map_map]
  refine List.map_congr_left fun cell hcell => ?_
  obtain ⟨v, hv⟩ := Option.isSome_iff_exists.1 (h cell hcell)
  simp [hv]

/-- The tables of values of a scenario without a fault have the columns of the first one. -/
theorem cellsOf_header {name : String} {examples : List Gherkin.Examples}
    (hregular : ∀ e ∈ examples, e.Regular) (hfaults : columnFaults name examples = []) :
    ∀ e ∈ examples, ∀ row, e.header = some row → cellsOf row = (headerOf examples).map some := by
  intro e he row hrow
  have hmem : row ∈ examples.filterMap (·.header) := List.mem_filterMap.2 ⟨e, he, hrow⟩
  have hfirst := List.head?_filterMap (l := examples) (f := fun e => e.header)
  cases hheaders : examples.filterMap (·.header) with
  | nil => simp [hheaders] at hmem
  | cons first others =>
    rw [hheaders, List.head?_cons] at hfirst
    obtain ⟨e', he', hfirst'⟩ := List.mem_filterMap.1
      (show first ∈ examples.filterMap (·.header) from hheaders ▸ List.mem_cons_self)
    have hvalued : ∀ cell ∈ first, cell.value.isSome = true := by
      refine (hregular e' he').rows.valued first ?_
      simp [hfirst']
    have hheader : (headerOf examples).map some = cellsOf first := by
      rw [headerOf, ← hfirst]
      exact (cellsOf_eq hvalued).symm
    rw [hheader]
    rw [hheaders] at hmem
    rcases List.mem_cons.1 hmem with rfl | hmem
    · rfl
    · unfold columnFaults at hfaults
      rw [hheaders] at hfaults
      have hsame := List.filter_eq_nil_iff.1 (List.map_eq_nil_iff.1 hfaults) row hmem
      simpa using hsame

/-! ## Top theorem -/

section
variable {source : List Char} {c : Catalog} {stubs : List Stub} {method : String}
  {s : Gherkin.Scenario}

theorem planScenario_parameters : (planScenario c stubs method s).parameters =
    (uniqueAll ((headerOf s.examples).map parameterName)).map (⟨.text, ·⟩) := by
  rw [← parameters_outlineOf, List.map_map]
  rfl

/-- The parameter for a column of a scenario whose columns differ. -/
theorem parameter?_outlineOf (hcolumns : (headerOf s.examples).Nodup) {i : Nat} {column : String}
    {p : Parameter} (hcolumn : (headerOf s.examples)[i]? = some column)
    (hp : (planScenario c stubs method s).parameters[i]? = some p) :
    (outlineOf s.examples).parameter? column = some p.name := by
  rw [← headers_outlineOf, List.getElem?_map] at hcolumn
  rw [← headers_outlineOf] at hcolumns
  obtain ⟨o, ho, rfl⟩ := Option.map_eq_some_iff.1 hcolumn
  have hparameter : (planScenario c stubs method s).parameters =
      (outlineOf s.examples).map fun column => ⟨.text, column.parameter⟩ := rfl
  rw [hparameter, List.getElem?_map, ho] at hp
  obtain rfl := Option.some.inj hp
  exact parameter?_of_mem hcolumns (List.mem_of_getElem? ho)

/-- The values of a row of a table. -/
theorem readLiterals_row (hs : s.Regular source) (hfaults : columnFaults s.name s.examples = [])
    {row : Gherkin.Row} (hrow : row ∈ s.examples.flatMap (·.body)) :
    cellsOf row = (rowTexts row).map some ∧
      readLiterals (caseText (cellsOf row)).toList = some (rowTexts row) ∧
      (rowTexts row).length = (headerOf s.examples).length := by
  obtain ⟨e, he, hrow⟩ := List.mem_flatMap.1 hrow
  have hregular := hs.examples e he
  have hcells := cellsOf_eq (hregular.rows.valued row (List.mem_append_right _ hrow))
  refine ⟨hcells, hcells ▸ readLiterals_caseText _, ?_⟩
  cases hheader : e.header with
  | none =>
    rw [hregular.headed hheader] at hrow
    cases hrow
  | some top =>
    have hwidth := hregular.rows.width row (List.mem_append_right _ hrow)
    have hcolumns := congrArg List.length (cellsOf_header hs.examples hfaults e he top hheader)
    simp only [hheader, Option.toList_some, List.cons_append, List.headD_cons] at hwidth
    simp only [cellsOf, List.length_map] at hcolumns
    rw [rowTexts, cellsOf, List.length_map, List.length_map, hwidth, hcolumns]

theorem outlined_planScenario (hs : s.Regular source)
    (hfaults : columnFaults s.name s.examples = []) (hcolumns : (headerOf s.examples).Nodup) :
    Outlined (headerOf s.examples) s (planScenario c stubs method s) := by
  obtain ⟨-, hnodup, hnumbered⟩ :=
    uniqueFrom_spec [] ((headerOf s.examples).map parameterName)
  have hlen : (planScenario c stubs method s).parameters.length = (headerOf s.examples).length := by
    rw [planScenario_parameters, List.length_map, length_uniqueAll, List.length_map]
  refine ⟨cellsOf_header hs.examples hfaults, ?_, ?_, ?_, ?_⟩
  · rw [planScenario_parameters, List.forall₂_map_right_iff]
    exact (List.forall₂_map_left_iff.1 hnumbered).imp fun _ _ h => ⟨rfl, h⟩
  · rw [planScenario_parameters, List.map_map]
    simpa [Function.comp_def, uniqueAll] using hnodup
  · intro i column p hcolumn hp x hx a ha hvalue
    obtain ⟨l, -, rfl⟩ := List.mem_map.1 hx
    rcases argument_of_plan c stubs _ l ha with ⟨typeName, hexpression⟩ | ⟨hnone, -⟩
    · rw [hexpression]
      exact parameter?_ofText hvalue (parameter?_outlineOf hcolumns hcolumn hp)
    · rw [hnone] at hvalue
      cases hvalue
  · have hcases : (planScenario c stubs method s).cases =
        (s.examples.flatMap (·.body)).map cellsOf := caseRows_eq hs.examples
    rw [hcases, List.forall₂_map_right_iff, List.forall₂_same]
    intro row hrow
    obtain ⟨hcells, hread, hwidth⟩ := readLiterals_row hs hfaults hrow
    exact ⟨rowTexts row, hcells, hread, hwidth.trans hlen.symm⟩

end

/-- **Outlines have a parameter for each column and a value for each parameter.**  The scenarios of
a plan stand against those of the feature one by one; where the columns of a scenario differ, its
plan is its outline. -/
theorem outlines_of_read {c : Catalog} {fileName text : String} {f : Gherkin.Feature} {p : Plan}
    (hread : Gherkin.Document.read text = .ok (some f)) (hp : convert c fileName (some f) = .ok p) :
    List.Forall₂ (fun s q => (headerOf s.examples).Nodup → Outlined (headerOf s.examples) s q)
      (allScenarios f) p.scenarios := by
  obtain ⟨hfaults, rfl⟩ := convert_some_eq_ok_iff.1 hp
  have hgathered := gatheredScenarios_of_shaped (Gherkin.Document.read_shaped hread)
  have hscenarios : ∀ s ∈ allScenarios f, s.Regular text.toList ∧ columnFaults s.name s.examples = [] := by
    intro s hs
    rw [← hgathered] at hs
    refine ⟨regular_of_mem_gathered (Gherkin.Document.read_regular hread) hs, ?_⟩
    refine List.eq_nil_iff_forall_not_mem.2 fun fault hfault => ?_
    have htrial := scenarioTrials_subset c hs
      (List.mem_append_left _ (List.mem_map_of_mem (f := faultTrial) hfault))
    cases hfaults _ htrial
  have hplanned := scenarios_plan c fileName f
  rw [hgathered] at hplanned
  refine ((List.forall₂_and_left _ _).2 ⟨hscenarios, hplanned⟩).imp ?_
  rintro s q ⟨⟨hregular, hcolumns⟩, method, rfl⟩ hdistinct
  exact outlined_planScenario hregular hcolumns hdistinct

/-- An outline with two tables of values, whose columns ask for one name. -/
def greetingText : String := String.join [
  "Feature: Greetings\n",
  "Scenario Outline: Greet\n",
  "When <a b> meets \"<a-b>\"\n",
  "Examples:\n",
  "| a b | a-b |\n",
  "| A, \"B\" | C:\\\\ |\n",
  "Examples:\n",
  "| a b | a-b |\n",
  "| | ' |\n"]

def greetingHeader : Gherkin.Row := [⟨some "a b"⟩, ⟨some "a-b"⟩]

def greetingFeature : Gherkin.Feature :=
  { tags := [], language := "en", keyword := "Feature", name := "Greetings", description := "",
    children := [.scenario
      { tags := [], keyword := "Scenario Outline", name := "Greet", description := "",
        steps := [⟨"When ", .kind .action, "<a b> meets \"<a-b>\"", none⟩],
        examples := [
          ⟨[], "Examples", "", "", some greetingHeader, [[⟨some "A, \"B\""⟩, ⟨some "C:\\"⟩]]⟩,
          ⟨[], "Examples", "", "", some greetingHeader, [[⟨some ""⟩, ⟨some "'"⟩]]⟩] }] }

theorem greetingText_outlined :
    ∃ p q, convert [] "greetings" (some greetingFeature) = .ok p ∧ p.scenarios = [q] ∧
      q.parameters.length = 2 ∧ (q.parameters.map (·.name)).Nodup ∧
      q.cases.map (fun cells => readLiterals (caseText cells).toList) =
        [some ["A, \"B\"", "C:\\"], some ["", "'"]] := by
  have hread : Gherkin.Document.read greetingText = .ok (some greetingFeature) := by decide +kernel
  have hfaults : faults [] greetingFeature = [] := rfl
  have hc : convert [] "greetings" (some greetingFeature) =
      .ok (plan [] "greetings" greetingFeature) := by
    simp only [convert, hfaults, List.head?_nil]
  obtain ⟨q, qs, hq, hqs, hscenarios⟩ := List.forall₂_cons_left_iff.1 (outlines_of_read hread hc)
  obtain rfl := List.forall₂_nil_left_iff.1 hqs
  have hq := hq (by decide)
  obtain ⟨c₁, rest, ⟨t₁, ht₁, hr₁, -⟩, hrest, hcases⟩ := List.forall₂_cons_left_iff.1 hq.cases
  obtain ⟨c₂, rest', ⟨t₂, ht₂, hr₂, -⟩, hrest', rfl⟩ := List.forall₂_cons_left_iff.1 hrest
  obtain rfl := List.forall₂_nil_left_iff.1 hrest'
  have hinjective := List.map_injective_iff.2 fun (_ _ : String) => Option.some.inj
  obtain rfl : ["A, \"B\"", "C:\\"] = t₁ := hinjective ht₁
  obtain rfl : ["", "'"] = t₂ := hinjective ht₂
  refine ⟨_, q, hc, hscenarios, hq.parameters.length_eq.symm, hq.distinct, ?_⟩
  rw [hcases, List.map_cons, List.map_singleton, hr₁, hr₂]

end Acceptance.Plan
