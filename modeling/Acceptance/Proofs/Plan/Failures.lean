import Acceptance.Plan.Exchange
import Acceptance.Proofs.Gherkin.TreeReading
import Acceptance.Proofs.Plan.FirstFault

/-!
# Failures of a conversion

A conversion asks for no more of a document than what is read of its tree, so the tree converts as
the document does.  It fails just where the feature is faulty, with the fault that stands first, and
in no other way.

    convertPortion c fileName (documentOf (Document.tree d)) =
      (convert c fileName d).mapError .fault                                  (convertPortion_tree)
-/

namespace Acceptance.Plan

open Acceptance.Text

/-! ## Parts of what is read -/

section
variable (f : Gherkin.Feature)

theorem backgrounds_bare : backgrounds f.bare = (backgrounds f).map (·.bare) := by
  unfold backgrounds Gherkin.Feature.bare
  rw [List.filterMap_append]
  induction f.children with
  | nil => rfl
  | cons child rest ih => cases child <;> simpa [List.filterMap_cons] using ih

/-- Children that are walked through with nothing in the place of a background. -/
theorem flatMap_bare {β : Type} {g : Gherkin.Child → List β} (hg : ∀ b, g (.background b) = []) :
    f.bare.children.flatMap g = f.children.flatMap fun child => (child.bare?.map g).getD [] := by
  have hbackgrounds : ∀ bs : List Gherkin.Background, (bs.map .background).flatMap g = [] := by
    simp [hg]
  unfold Gherkin.Feature.bare
  rw [List.flatMap_append, hbackgrounds, List.nil_append]
  induction f.children with
  | nil => rfl
  | cons child rest ih => cases child <;> simp [List.filterMap_cons, ih]

theorem ruleScenarios_bare (r : Gherkin.Rule) :
    ruleScenarios r.bare = (ruleScenarios r).map Gherkin.Scenario.bare := by
  unfold ruleScenarios Gherkin.Rule.bare
  induction r.children with
  | nil => rfl
  | cons child rest ih => cases child <;> simpa [Gherkin.RuleChild.bare] using ih

theorem allScenarios_bare : allScenarios f.bare = (allScenarios f).map Gherkin.Scenario.bare := by
  refine (flatMap_bare f fun b => rfl).trans ?_
  rw [allScenarios, List.map_flatMap]
  congr 1
  funext child
  cases child with
  | background b => rfl
  | scenario s => rfl
  | rule r => exact ruleScenarios_bare r

theorem allOccurrences_bare : allOccurrences f.bare = allOccurrences f := by
  simp only [allOccurrences, backgrounds_bare, allScenarios_bare, List.flatMap_map]
  rfl

end

/-! ## Faults -/

theorem headers_bare (es : List Gherkin.Examples) :
    (es.filterMap Gherkin.Examples.bare?).filterMap (·.header) = es.filterMap (·.header) := by
  induction es with
  | nil => rfl
  | cons e es ih => cases h : e.header <;> simpa [Gherkin.Examples.bare?, h] using ih

theorem scenarioSpots_bare (s : Gherkin.Scenario) : scenarioSpots s.bare = scenarioSpots s := by
  simp only [scenarioSpots, headerSpots, Gherkin.Scenario.bare, headers_bare]

/-- What is read of a feature has the spots of the feature. -/
theorem spots_bare (f : Gherkin.Feature) : spots f.bare = spots f := by
  have hrule : ∀ r : Gherkin.Rule, ruleSpots r.bare = ruleSpots r := by
    intro r
    unfold ruleSpots Gherkin.Rule.bare
    rw [List.flatMap_map]
    congr 1
    funext child
    cases child with
    | background b => rfl
    | scenario s => exact scenarioSpots_bare s
  have hchildren : f.bare.children.flatMap childSpots = f.children.flatMap childSpots := by
    rw [flatMap_bare f fun b => rfl]
    congr 1
    funext child
    cases child with
    | background b => rfl
    | scenario s => exact scenarioSpots_bare s
    | rule r => exact hrule r
  simp only [spots, backgrounds_bare, hchildren, List.flatMap_map]
  rfl

/-! ## Plans -/

theorem contains_tagsThrough (stop : String) (tags : List String) :
    (Gherkin.tagsThrough stop tags).contains stop = tags.contains stop := by
  induction tags with
  | nil => rfl
  | cons t ts ih =>
    unfold Gherkin.tagsThrough
    by_cases h : t = stop
    · simp [h]
    · rw [if_neg h, List.contains_cons, List.contains_cons, ih]

theorem headerOf_bare (es : List Gherkin.Examples) :
    headerOf (es.filterMap Gherkin.Examples.bare?) = headerOf es := by
  unfold headerOf
  rw [← List.head?_filterMap, headers_bare, List.head?_filterMap]

theorem caseRows_bare (es : List Gherkin.Examples) :
    caseRows (es.filterMap Gherkin.Examples.bare?) = caseRows es := by
  unfold caseRows
  induction es with
  | nil => rfl
  | cons e es ih => cases h : e.header <;> simpa [Gherkin.Examples.bare?, h] using ih

section
variable (c : Catalog) (stubs : List Stub)

theorem planScenario_bare (method : String) (s : Gherkin.Scenario) :
    planScenario c stubs method s.bare = planScenario c stubs method s := by
  have houtline : outlineOf s.bare.examples = outlineOf s.examples := by
    show outlineOf (s.examples.filterMap Gherkin.Examples.bare?) = _
    rw [outlineOf, headerOf_bare]
    rfl
  have hcases : caseRows s.bare.examples = caseRows s.examples := caseRows_bare s.examples
  have htag : s.bare.tags.contains Gherkin.explicitTag = s.tags.contains Gherkin.explicitTag :=
    contains_tagsThrough _ _
  unfold planScenario
  rw [houtline, hcases, htag]
  rfl

theorem planScenarios_bare (taken : List String) (ss : List Gherkin.Scenario) :
    planScenarios c stubs taken (ss.map Gherkin.Scenario.bare) = planScenarios c stubs taken ss := by
  induction ss generalizing taken with
  | nil => rfl
  | cons s ss ih =>
    simp only [List.map_cons, planScenarios, planScenario_bare, ih]
    rfl

theorem planChildren_backgrounds (taken : List String) (bs : List Gherkin.Background)
    (rest : List Gherkin.Child) :
    planChildren c stubs taken (bs.map .background ++ rest) = planChildren c stubs taken rest := by
  induction bs with
  | nil => rfl
  | cons b bs ih => exact ih

theorem planChildren_bare (taken : List String) (children : List Gherkin.Child) :
    planChildren c stubs taken (children.filterMap Gherkin.Child.bare?) =
      planChildren c stubs taken children := by
  induction children generalizing taken with
  | nil => rfl
  | cons child rest ih =>
    cases child with
    | background b => exact ih taken
    | scenario s =>
      simp only [List.filterMap_cons, Gherkin.Child.bare?_scenario, planChildren,
        planScenario_bare, ih]
      rfl
    | rule r =>
      simp only [List.filterMap_cons, Gherkin.Child.bare?_rule, planChildren, ruleScenarios_bare,
        planScenarios_bare, ih]
      rfl

end

/-- What is read of a feature has the plan of the feature. -/
theorem plan_bare (c : Catalog) (fileName : String) (f : Gherkin.Feature) :
    plan c fileName f.bare = plan c fileName f := by
  have hstubs : stubsOf c f.bare = stubsOf c f := by rw [stubsOf, allOccurrences_bare, stubsOf]
  have hused : usedDefinitions c f.bare = usedDefinitions c f := by
    rw [usedDefinitions, allOccurrences_bare, usedDefinitions]
  have hchildren : ∀ stubs taken, planChildren c stubs taken f.bare.children =
      planChildren c stubs taken f.children := fun stubs taken =>
    (planChildren_backgrounds c stubs taken _ _).trans (planChildren_bare c stubs taken f.children)
  simp only [plan, hstubs, hused, hchildren, backgrounds_bare, List.getLast?_map, Option.map_map]
  rfl

theorem convert_bare (c : Catalog) (fileName : String) (d : Gherkin.Document) :
    convert c fileName (d.map Gherkin.Feature.bare) = convert c fileName d := by
  cases d with
  | none => rfl
  | some f => simp only [Option.map_some, convert, head?_faults, spots_bare, plan_bare]

/-! ## Documents of the reader's shape -/

/-- A feature of the shape that the reader makes, whatever the width of its rows: a tag goes on one
line, and a column of values has a name. -/
structure Plain (f : Gherkin.Feature) : Prop where
  tags : ∀ t ∈ f.tags, '\n' ∉ t.toList
  headed : f.Headed

theorem plain_of_read {text : String} {f : Gherkin.Feature}
    (h : Gherkin.Document.read text = .ok (some f)) : Plain f := by
  have hregular := Gherkin.Document.read_regular h
  have hscenario : ∀ s : Gherkin.Scenario, s.Regular text.toList → s.Headed :=
    fun s hs e he top htop cell hcell =>
      (hs.examples e he).rows.valued top (by simp [htop]) cell hcell
  refine ⟨fun t ht hmem => ?_, fun child hchild => ?_⟩
  · exact absurd (hregular.tags t ht _ hmem) (by decide)
  · have hc := hregular.children child hchild
    cases child with
    | background b => trivial
    | scenario s => exact hscenario s hc
    | rule r =>
      intro child hchild
      have hc := hc.children child hchild
      cases child with
      | background b => trivial
      | scenario s => exact hscenario s hc

/-- **The tree of a document converts as the document does.** -/
theorem convertPortion_tree {c : Catalog} {fileName : String} {d : Gherkin.Document}
    (h : ∀ f, d = some f → f.Headed) :
    convertPortion c fileName (Gherkin.documentOf (Gherkin.Document.tree d)) =
      (convert c fileName d).mapError .fault := by
  rw [Gherkin.documentOf_tree h, convertPortion]
  simp only [convert_bare]
  cases convert c fileName d <;> rfl

theorem convert_eq_error_iff {c : Catalog} {fileName : String} {d : Gherkin.Document}
    {fault : Fault} (h : ∀ f, d = some f → Plain f) :
    convert c fileName d = .error fault ↔ ∃ f, d = some f ∧ FirstFault c f fault := by
  cases d with
  | none => simp [convert]
  | some f =>
    simp only [Option.some.injEq, exists_eq_left', firstFault_iff (h f rfl).tags,
      convert_some_eq_error_iff]

/-! ## Top theorem -/

/-- **A conversion fails at the first fault, and only there.**  The document may have ragged
tables; its tree fails with no defect of its own. -/
theorem conversion_fails_at_first_fault (c : Catalog) (fileName : String) (d : Gherkin.Document)
    (h : ∀ f, d = some f → Plain f) :
    (∀ e, convertPortion c fileName (Gherkin.documentOf (Gherkin.Document.tree d)) = .error e ↔
      ∃ f fault, d = some f ∧ e = .fault fault ∧ FirstFault c f fault) ∧
    ((∃ e, convertPortion c fileName (Gherkin.documentOf (Gherkin.Document.tree d)) = .error e) ↔
      ∃ f, d = some f ∧ Faulty c f) := by
  have herror : ∀ e, convertPortion c fileName
      (Gherkin.documentOf (Gherkin.Document.tree d)) = .error e ↔
        ∃ f fault, d = some f ∧ e = .fault fault ∧ FirstFault c f fault := by
    intro e
    rw [convertPortion_tree fun f hf => (h f hf).headed]
    have hconvert : (convert c fileName d).mapError Failure.fault = .error e ↔
        ∃ fault, convert c fileName d = .error fault ∧ e = .fault fault := by
      cases convert c fileName d <;> simp [Except.mapError, eq_comm]
    rw [hconvert]
    constructor
    · rintro ⟨fault, hfault, rfl⟩
      obtain ⟨f, hf, hfirst⟩ := (convert_eq_error_iff h).1 hfault
      exact ⟨f, fault, hf, rfl, hfirst⟩
    · rintro ⟨f, fault, hf, rfl, hfirst⟩
      exact ⟨fault, (convert_eq_error_iff h).2 ⟨f, hf, hfirst⟩, rfl⟩
  refine ⟨herror, ?_⟩
  constructor
  · rintro ⟨e, he⟩
    obtain ⟨f, fault, hf, -, hfirst⟩ := (herror e).1 he
    exact ⟨f, hf, (exists_firstFault_iff (h f hf).tags).1 ⟨fault, hfirst⟩⟩
  · rintro ⟨f, hf, hfaulty⟩
    obtain ⟨fault, hfirst⟩ := (exists_firstFault_iff (h f hf).tags).2 hfaulty
    exact ⟨.fault fault, (herror _).2 ⟨f, fault, hf, rfl, hfirst⟩⟩

/-- A scenario with a row that lacks a cell. -/
def raggedScenario : Gherkin.Scenario :=
  { tags := [], keyword := "Scenario", name := "Two", description := "", examples := [],
    steps := [⟨"Given ", .kind .context, "accounts", some
      [[⟨some "name"⟩, ⟨some "amount"⟩], [⟨some "Savings"⟩]]⟩] }

/-- A feature with a ragged table, and behind it a rule with a background. -/
def raggedFeature : Gherkin.Feature :=
  { tags := [], language := "en", keyword := "Feature", name := "Transfers", description := "",
    children := [.scenario raggedScenario, .rule
      { tags := [], keyword := "Rule", name := some "Limits", description := "",
        children := [.background ⟨"Background", "", "", []⟩] }] }

theorem raggedFeature_plain : Plain raggedFeature := by
  refine ⟨by simp [raggedFeature], ?_⟩
  simp [Gherkin.Feature.Headed, Gherkin.Child.Headed, Gherkin.RuleChild.Headed,
    Gherkin.Scenario.Headed, raggedFeature, raggedScenario]

theorem raggedFeature_fails :
    convertPortion [] "transfers" (Gherkin.documentOf (Gherkin.Document.tree (some raggedFeature))) =
      .error (.fault (.raggedRow 1 1 2)) := by
  refine ((conversion_fails_at_first_fault [] "transfers" (some raggedFeature)
    fun f hf => Option.some.inj hf ▸ raggedFeature_plain).1 _).2 ?_
  refine ⟨raggedFeature, _, rfl, rfl, [], _, _, rfl, .ragged 1 _ _ ?_, by simp⟩
  decide

end Acceptance.Plan
