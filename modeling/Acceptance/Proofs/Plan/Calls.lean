import Acceptance.Proofs.Plan.Lines
import Mathlib.Data.List.Forall2

/-!
# Calls of definitions

The call of a definition is made in three pieces: a value for every placeholder that still finds a
parameter, the variable of the data table where a parameter is left for it, and the test that as
many values were supplied as there are parameters.  A line that passes the test calls its
definition with the captured texts in their order and, behind them, with its own data table.

    supplied r l = r.definition.parameters.length →
      callArguments r o l.table? = values ++ tableArguments l.table?        (callArguments_eq)
-/

namespace Acceptance.Plan

/-! ## Calls -/

/-- The texts that a definition captures from a step text, without the quotes around them. -/
def capturedTexts (d : StepDefinition) (text : String) : List String :=
  ((Pattern.captures? d.pattern text).getD []).map Pattern.unquote

/-- The argument that passes a data table. -/
def tableArguments (t : Option Table) : List Argument :=
  (t.map fun t => ⟨t.variableName, .named t.variableName⟩).toList

/-- A step that calls a definition with the texts captured from it, and with its own table. -/
structure Step.Calls (s : Step) (d : StepDefinition) : Prop where
  owner : s.owner = d.owner
  method : s.method = d.method
  arity : s.arguments.length = d.parameters.length
  captured : ∀ (i : Nat) (value : String), (capturedTexts d s.text)[i]? = some value →
    (s.arguments[i]?).map (·.value) = some value
  remaining : s.arguments.drop (capturedTexts d s.text).length = tableArguments s.table

/-! ## Lemmas -/

theorem arguments_eq_capturedTexts (d : StepDefinition) (text : String) :
    Pattern.arguments d.pattern text = capturedTexts d text := by
  unfold Pattern.arguments capturedTexts
  cases Pattern.captures? d.pattern text <;> rfl

theorem resolution?_of_find? {c : Catalog} {l : Occurrence} {d : StepDefinition}
    (h : c.find? l.kind.word l.line.text = some d) :
    l.resolution? c = some ⟨d, capturedTexts d l.line.text⟩ := by
  simp [Occurrence.resolution?, Catalog.resolve?, h, arguments_eq_capturedTexts]

/-- The values for the placeholders of a resolution. -/
def placeholderArguments (r : Resolution) (o : Outline) : List Argument :=
  (r.arguments.zip r.definition.parameters).map fun (value, p) =>
    ⟨value, .ofText value p.typeName o⟩

theorem callArguments_eq {r : Resolution} {l : Occurrence} (o : Outline)
    (h : supplied r l = r.definition.parameters.length) :
    Resolution.callArguments r o l.table? =
      placeholderArguments r o ++ tableArguments l.table? := by
  unfold Resolution.callArguments
  cases ht : l.table? with
  | none => simp [placeholderArguments, tableArguments]
  | some t =>
    have hl : l.hasTable = true := by
      have := congrArg Option.isSome ht
      simpa [Occurrence.table?, Occurrence.hasTable] using this
    have hlen : r.definition.parameters.length = r.arguments.length + 1 := by
      simpa [supplied, hl] using h.symm
    simp [hlen, placeholderArguments, tableArguments]

theorem length_tableArguments (l : Occurrence) :
    (tableArguments l.table?).length = if l.hasTable then 1 else 0 := by
  unfold tableArguments Occurrence.table? Occurrence.hasTable
  cases l.line.table <;> rfl

theorem length_placeholderArguments {r : Resolution} {l : Occurrence} (o : Outline)
    (h : supplied r l = r.definition.parameters.length) :
    (placeholderArguments r o).length = r.arguments.length := by
  unfold supplied at h
  simp only [placeholderArguments, List.length_map, List.length_zip]
  omega

theorem value_placeholderArguments {r : Resolution} {l : Occurrence} (o : Outline)
    (h : supplied r l = r.definition.parameters.length) :
    (placeholderArguments r o).map (·.value) = r.arguments := by
  unfold supplied at h
  have hle : r.arguments.length ≤ r.definition.parameters.length := by omega
  simp only [placeholderArguments, List.map_map]
  exact List.map_fst_zip hle

theorem supplied_of_arityFault? {r : Resolution} {l : Occurrence} (h : arityFault? r l = none) :
    supplied r l = r.definition.parameters.length := by
  unfold arityFault? at h
  split at h
  · assumption
  · cases h

/-- A line that passes the test of its arity calls the definition that answers it. -/
theorem planMatched_calls {l : Occurrence} {d : StepDefinition} (o : Outline)
    (h : arityFault? ⟨d, capturedTexts d l.line.text⟩ l = none) :
    (l.planMatched ⟨d, capturedTexts d l.line.text⟩ o).Calls d := by
  generalize hr : (⟨d, capturedTexts d l.line.text⟩ : Resolution) = r at h ⊢
  have hd : r.definition = d := by rw [← hr]
  have ha : r.arguments = capturedTexts d l.line.text := by rw [← hr]
  have hs := supplied_of_arityFault? h
  have hlen := length_placeholderArguments o hs
  have hargs : (l.planMatched r o).arguments =
      placeholderArguments r o ++ tableArguments l.table? := callArguments_eq o hs
  have htext : (l.planMatched r o).text = l.line.text := rfl
  refine ⟨by rw [← hd]; rfl, by rw [← hd]; rfl, ?_, ?_, ?_⟩
  · rw [hargs, List.length_append, hlen, length_tableArguments, ← hd, ← hs, supplied]
  · intro i value hv
    rw [htext, ← ha] at hv
    have hi : i < r.arguments.length := by
      apply Classical.byContradiction
      intro hge
      rw [List.getElem?_eq_none (by omega)] at hv
      cases hv
    rw [hargs, List.getElem?_append_left (by omega), ← List.getElem?_map,
      value_placeholderArguments o hs, hv]
  · rw [hargs, htext, ← ha, ← hlen, List.drop_left]
    rfl

theorem arityFault?_of_trial {c : Catalog} {stubs : List Stub} {l : Occurrence} {d : StepDefinition}
    (hfind : c.find? l.kind.word l.line.text = some d) (hfault : (l.trial c stubs).fault = none) :
    arityFault? ⟨d, capturedTexts d l.line.text⟩ l = none := by
  unfold Occurrence.trial at hfault
  split at hfault
  · cases hfault
  · rwa [resolution?_of_find? hfind] at hfault

theorem step_calls {c : Catalog} {stubs : List Stub} {x : PlanLine} {d : StepDefinition}
    (hfind : c.find? x.line.kind.word x.line.line.text = some d)
    (hfault : (x.line.trial c stubs).fault = none) : (x.step c stubs).Calls d := by
  unfold PlanLine.step Occurrence.plan
  rw [resolution?_of_find? hfind]
  exact planMatched_calls x.outline (arityFault?_of_trial hfind hfault)

/-! ## Top theorem -/

/-- **Matched steps call their definitions.**  The steps of a converted document stand against its
lines one by one, and a line that some definition answers calls just that definition. -/
theorem matched_steps_call_definitions (c : Catalog) (fileName : String) (d : Gherkin.Document)
    (p : Plan) (h : convert c fileName d = .ok p) :
    List.Forall₂ (fun (x : PlanLine) (s : Step) =>
      s.text = x.line.line.text ∧ s.table = x.line.table? ∧
      ∀ definition, c.find? x.line.kind.word x.line.line.text = some definition →
        s.Calls definition) (documentLines d) p.allSteps := by
  rw [allSteps_of_convert h, List.forall₂_map_right_iff, List.forall₂_same]
  intro x hx
  obtain ⟨htext, htable⟩ := x.step_text_table c ((d.map (stubsOf c)).getD [])
  refine ⟨htext, htable, fun definition hfind => ?_⟩
  cases d with
  | none => cases hx
  | some f => exact step_calls hfind (line_fault_of_convert h hx)

/-- A definition with a placeholder and a data table. -/
def moveDefinition : StepDefinition :=
  { kind := .action, pattern := "I move \x7bamount\x7d to", owner := "Accounts", module := "steps",
    method := "move", parameters := [⟨"int", "amount"⟩, ⟨"DataTable", "accounts"⟩] }

/-- A step line with a quoted value and a data table. -/
def moveLine : Gherkin.Step :=
  ⟨"When ", .kind .action, "I MOVE \"5\" to", some [[⟨some "account"⟩], [⟨some "Savings"⟩]]⟩

/-- A scenario in a rule whose second step has a definition. -/
def moveFeature : Gherkin.Feature :=
  { tags := [], language := "en", keyword := "Feature", name := "Transfers", description := "",
    children := [.rule
      { tags := [], keyword := "Rule", name := some "Limits", description := "",
        children := [.scenario
          { tags := [], keyword := "Scenario", name := "Two", description := "", examples := [],
            steps := [⟨"Given ", .kind .context, "nothing", none⟩, moveLine] }] }] }

theorem moveFeature_calls_definition :
    ∃ p s t, convert [moveDefinition] "transfers" (some moveFeature) = .ok p ∧
      p.allSteps = [s, t] ∧ t.Calls moveDefinition := by
  have hfaults : faults [moveDefinition] moveFeature = [] := by decide +kernel
  have hc : convert [moveDefinition] "transfers" (some moveFeature) =
      .ok (plan [moveDefinition] "transfers" moveFeature) := by
    simp only [convert, hfaults, List.head?_nil]
  have hfind : Catalog.find? [moveDefinition] StepKind.action.word moveLine.text =
      some moveDefinition := by
    have h₁ : moveDefinition.answersTo StepKind.action.word = true := by decide +kernel
    have h₂ : moveDefinition.isExact moveLine.text = false := by decide +kernel
    have h₃ : moveDefinition.isTemplated moveLine.text = true := by decide +kernel
    simp [Catalog.find?, Catalog.candidates, h₁, h₂, h₃]
  have h := matched_steps_call_definitions _ _ _ _ hc
  obtain ⟨s, l, -, hl, hs⟩ := List.forall₂_cons_left_iff.1 h
  obtain ⟨t, l', ht, hn, rfl⟩ := List.forall₂_cons_left_iff.1 hl
  obtain rfl := List.forall₂_nil_left_iff.1 hn
  exact ⟨_, s, t, hc, hs, ht.2.2 _ hfind⟩

end Acceptance.Plan
