import Acceptance.Plan.Conversion

/-!
# The lines behind the steps of a plan

Every step of a plan is made of one step line of the feature: the steps of the background of the
last background, those of the scenarios scenario by scenario, where the scenarios outside of any
rule stand together at the place of the first of them.

    (plan c fileName f).allSteps = (planLines f).map (·.step c (stubsOf c f))     (allSteps_plan)
    convert c fileName (some f) = .ok p → the trial of every line reports no fault
-/

namespace Acceptance.Plan

/-! ## Lines in the order of a plan -/

/-- A step line with the outline whose columns it may refer to. -/
structure PlanLine where
  outline : Outline
  line : Occurrence
  deriving Repr, DecidableEq

/-- The step of a line. -/
def PlanLine.step (c : Catalog) (stubs : List Stub) (x : PlanLine) : Step :=
  x.line.plan c stubs x.outline

/-- The lines of a scenario. -/
def scenarioLines (s : Gherkin.Scenario) : List PlanLine :=
  (occurrences s.steps).map fun l => ⟨outlineOf s.examples, l⟩

/-- The lines of a background, which refer to no columns. -/
def backgroundLines (b : Gherkin.Background) : List PlanLine :=
  (occurrences b.steps).map fun l => ⟨[], l⟩

/-- The scenarios outside of any rule. -/
def bareScenarios (children : List Gherkin.Child) : List Gherkin.Scenario :=
  children.filterMap fun
    | .scenario s => some s
    | _ => none

/-- The scenarios inside of rules. -/
def ruledScenarios (children : List Gherkin.Child) : List Gherkin.Scenario :=
  children.flatMap fun
    | .rule r => ruleScenarios r
    | _ => []

/-- The scenarios of children, `bare` standing at the place of the first outside of any rule. -/
def gatheredScenarios (bare : List Gherkin.Scenario) : List Gherkin.Child → List Gherkin.Scenario
  | [] => []
  | .background _ :: rest => gatheredScenarios bare rest
  | .rule r :: rest => ruleScenarios r ++ gatheredScenarios bare rest
  | .scenario _ :: rest => bare ++ ruledScenarios rest

/-- The lines of a feature in the order of the steps of its plan. -/
def planLines (f : Gherkin.Feature) : List PlanLine :=
  ((backgrounds f).getLast?.map backgroundLines).getD [] ++
    (gatheredScenarios (bareScenarios f.children) f.children).flatMap scenarioLines

/-- The lines of a document in the order of the steps of its plan. -/
def documentLines (d : Gherkin.Document) : List PlanLine := (d.map planLines).getD []

/-! ## Steps of planned scenarios -/

section
variable (c : Catalog) (stubs : List Stub)

/-- The steps of a scenario. -/
def scenarioSteps (s : Gherkin.Scenario) : List Step := (scenarioLines s).map (·.step c stubs)

theorem planScenario_steps (method : String) (s : Gherkin.Scenario) :
    (planScenario c stubs method s).steps = scenarioSteps c stubs s := by
  simp [planScenario, scenarioSteps, scenarioLines, PlanLine.step]

theorem planScenarios_steps (taken : List String) (ss : List Gherkin.Scenario) :
    (planScenarios c stubs taken ss).map (·.steps) = ss.map (scenarioSteps c stubs) := by
  induction ss generalizing taken with
  | nil => rfl
  | cons s ss ih => simp only [planScenarios, List.map_cons, planScenario_steps, ih]

theorem bare_planChildren_steps (taken : List String) (children : List Gherkin.Child) :
    ((planChildren c stubs taken children).filterMap Planned.bare?).map (·.steps) =
      (bareScenarios children).map (scenarioSteps c stubs) := by
  induction children generalizing taken with
  | nil => rfl
  | cons child rest ih =>
    cases child with
    | background b =>
      simp only [planChildren, ih]
      rfl
    | scenario s =>
      simp only [planChildren, List.filterMap_cons, Planned.bare?, List.map_cons,
        planScenario_steps, ih]
      rfl
    | rule r =>
      simp only [planChildren, List.filterMap_cons, Planned.bare?, ih]
      rfl

theorem ruled_planChildren_steps (taken : List String) (children : List Gherkin.Child) :
    (((planChildren c stubs taken children).filterMap Planned.rule?).flatMap (·.scenarios)).map
        (·.steps) = (ruledScenarios children).map (scenarioSteps c stubs) := by
  induction children generalizing taken with
  | nil => rfl
  | cons child rest ih =>
    cases child with
    | background b =>
      simp only [planChildren, ih]
      rfl
    | scenario s =>
      simp only [planChildren, List.filterMap_cons, Planned.rule?, ih]
      rfl
    | rule r =>
      simp only [planChildren, List.filterMap_cons, Planned.rule?, List.flatMap_cons,
        List.map_append, planScenarios_steps, ih]
      simp [ruledScenarios]

/-- Gathering planned scenarios is gathering scenarios, as far as their steps go. -/
theorem gather_planChildren_steps (taken : List String) (planned : List Scenario)
    (bare : List Gherkin.Scenario) (children : List Gherkin.Child)
    (h : planned.map (·.steps) = bare.map (scenarioSteps c stubs)) :
    ((gather planned (planChildren c stubs taken children)).flatMap (·.scenarios)).map (·.steps) =
      (gatheredScenarios bare children).map (scenarioSteps c stubs) := by
  induction children generalizing taken with
  | nil => rfl
  | cons child rest ih =>
    cases child with
    | background b => exact ih taken
    | scenario s =>
      simp only [planChildren, gather, List.flatMap_cons, List.map_append, h, gatheredScenarios,
        ruled_planChildren_steps]
    | rule r =>
      simp only [planChildren, gather, List.flatMap_cons, List.map_append, planScenarios_steps,
        gatheredScenarios, ih]

end

/-- **One step for each line.** -/
theorem allSteps_plan (c : Catalog) (fileName : String) (f : Gherkin.Feature) :
    (plan c fileName f).allSteps = (planLines f).map (·.step c (stubsOf c f)) := by
  have hrules := gather_planChildren_steps c (stubsOf c f) []
    ((planChildren c (stubsOf c f) [] f.children).filterMap Planned.bare?)
    (bareScenarios f.children) f.children (bare_planChildren_steps c (stubsOf c f) [] f.children)
  have hflat := congrArg List.flatten hrules
  simp only [← List.flatMap_def, List.flatMap_assoc] at hflat
  simp only [allSteps, plan, planLines, List.map_append, List.map_flatMap, hflat]
  congr 1
  cases (backgrounds f).getLast? with
  | none => rfl
  | some b => simp [backgroundLines, PlanLine.step]

/-- The text and the table of a step are those of its line. -/
theorem PlanLine.step_text_table (c : Catalog) (stubs : List Stub) (x : PlanLine) :
    (x.step c stubs).text = x.line.line.text ∧ (x.step c stubs).table = x.line.table? := by
  unfold PlanLine.step Occurrence.plan
  split
  · exact ⟨rfl, rfl⟩
  · exact ⟨rfl, rfl⟩

/-! ## Lines of features without a fault -/

theorem mem_bareScenarios {s : Gherkin.Scenario} {children : List Gherkin.Child} :
    s ∈ bareScenarios children ↔ .scenario s ∈ children := by
  unfold bareScenarios
  rw [List.mem_filterMap]
  constructor
  · rintro ⟨child, hc, hs⟩
    cases child with
    | scenario t =>
      obtain rfl := Option.some.inj hs
      exact hc
    | background b => cases hs
    | rule r => cases hs
  · intro h
    exact ⟨.scenario s, h, rfl⟩

theorem mem_ruleScenarios {s : Gherkin.Scenario} {r : Gherkin.Rule} :
    s ∈ ruleScenarios r ↔ .scenario s ∈ r.children := by
  unfold ruleScenarios
  rw [List.mem_filterMap]
  constructor
  · rintro ⟨child, hc, hs⟩
    cases child with
    | scenario t =>
      obtain rfl := Option.some.inj hs
      exact hc
    | background b => cases hs
  · intro h
    exact ⟨.scenario s, h, rfl⟩

theorem mem_ruledScenarios {s : Gherkin.Scenario} {children : List Gherkin.Child} :
    s ∈ ruledScenarios children ↔ ∃ r, .rule r ∈ children ∧ .scenario s ∈ r.children := by
  unfold ruledScenarios
  rw [List.mem_flatMap]
  constructor
  · rintro ⟨child, hc, hs⟩
    cases child with
    | rule r => exact ⟨r, hc, mem_ruleScenarios.1 hs⟩
    | background b => cases hs
    | scenario t => cases hs
  · rintro ⟨r, hr, hs⟩
    exact ⟨.rule r, hr, mem_ruleScenarios.2 hs⟩

theorem mem_allScenarios {s : Gherkin.Scenario} {f : Gherkin.Feature} : s ∈ allScenarios f ↔
    .scenario s ∈ f.children ∨ ∃ r, .rule r ∈ f.children ∧ .scenario s ∈ r.children := by
  unfold allScenarios
  rw [List.mem_flatMap]
  constructor
  · rintro ⟨child, hc, hs⟩
    cases child with
    | scenario t =>
      obtain rfl := List.mem_singleton.1 hs
      exact .inl hc
    | rule r => exact .inr ⟨r, hc, mem_ruleScenarios.1 hs⟩
    | background b => cases hs
  · rintro (hs | ⟨r, hr, hs⟩)
    · exact ⟨.scenario s, hs, List.mem_singleton_self s⟩
    · exact ⟨.rule r, hr, mem_ruleScenarios.2 hs⟩

theorem mem_allOccurrences {l : Occurrence} {f : Gherkin.Feature} : l ∈ allOccurrences f ↔
    (∃ b ∈ backgrounds f, l ∈ occurrences b.steps) ∨
      ∃ s ∈ allScenarios f, l ∈ occurrences s.steps := by
  unfold allOccurrences
  rw [List.mem_append, List.mem_flatMap, List.mem_flatMap]

theorem mem_gatheredScenarios {s : Gherkin.Scenario} {bare : List Gherkin.Scenario}
    {children : List Gherkin.Child} (h : s ∈ gatheredScenarios bare children) :
    s ∈ bare ∨ s ∈ ruledScenarios children := by
  induction children with
  | nil => cases h
  | cons child rest ih =>
    cases child with
    | background b => exact ih h
    | scenario t => exact List.mem_append.1 h
    | rule r =>
      rcases List.mem_append.1 h with h | h
      · exact .inr (List.mem_append.2 (.inl h))
      · exact (ih h).imp id fun h => List.mem_append.2 (.inr h)

/-- A scenario is tried where it stands. -/
theorem scenarioTrials_subset (c : Catalog) {f : Gherkin.Feature} {s : Gherkin.Scenario}
    (h : s ∈ gatheredScenarios (bareScenarios f.children) f.children) :
    scenarioTrials c (stubsOf c f) s ⊆ trials c f := by
  intro t ht
  refine List.mem_append_right _ (List.mem_flatMap.2 ?_)
  rcases mem_gatheredScenarios h with hs | hs
  · exact ⟨.scenario s, mem_bareScenarios.1 hs, ht⟩
  · obtain ⟨r, hr, hsr⟩ := mem_ruledScenarios.1 hs
    exact ⟨.rule r, hr, List.mem_flatMap.2 ⟨.scenario s, hsr, ht⟩⟩

/-- A line is tried where its background or its scenario is. -/
theorem trial_mem_trials (c : Catalog) {f : Gherkin.Feature} {x : PlanLine}
    (h : x ∈ planLines f) : x.line.trial c (stubsOf c f) ∈ trials c f := by
  rcases List.mem_append.1 h with h | h
  · unfold trials
    simp only [List.mem_append, List.mem_flatMap]
    left; right
    cases hb : (backgrounds f).getLast? with
    | none => simp [hb] at h
    | some b =>
      simp only [hb, Option.map_some, Option.getD_some] at h
      obtain ⟨l, hl, rfl⟩ := List.mem_map.1 h
      exact ⟨b, List.mem_of_getLast? hb, List.mem_map.2 ⟨l, hl, rfl⟩⟩
  · obtain ⟨s, hs, hx⟩ := List.mem_flatMap.1 h
    obtain ⟨l, hl, rfl⟩ := List.mem_map.1 hx
    exact scenarioTrials_subset c hs (List.mem_append_right _ (List.mem_map.2 ⟨l, hl, rfl⟩))

section
variable {c : Catalog} {fileName : String} {f : Gherkin.Feature} {p : Plan}

theorem convert_some_eq_ok_iff :
    convert c fileName (some f) = .ok p ↔
      (∀ t ∈ trials c f, t.fault = none) ∧ p = plan c fileName f := by
  have hfaults : (faults c f).head? = none ↔ ∀ t ∈ trials c f, t.fault = none := by
    simp [faults]
  rw [← hfaults]
  unfold convert
  simp only
  constructor
  · intro h
    split at h
    · cases h
    · next hnone => exact ⟨hnone, (Except.ok.inj h).symm⟩
  · rintro ⟨hnone, rfl⟩
    rw [hnone]

theorem convert_some_eq_error_iff {fault : Fault} :
    convert c fileName (some f) = .error fault ↔ (faults c f).head? = some fault := by
  simp only [convert]
  cases (faults c f).head? <;> simp

theorem line_fault_of_convert (h : convert c fileName (some f) = .ok p) {x : PlanLine}
    (hx : x ∈ planLines f) : (x.line.trial c (stubsOf c f)).fault = none :=
  (convert_some_eq_ok_iff.1 h).1 _ (trial_mem_trials c hx)

end

section
variable {c : Catalog} {fileName : String} {d : Gherkin.Document} {p : Plan}

/-- The steps of a converted document are those of its lines. -/
theorem allSteps_of_convert (h : convert c fileName d = .ok p) :
    p.allSteps = (documentLines d).map (·.step c ((d.map (stubsOf c)).getD [])) := by
  cases d with
  | none =>
    obtain rfl := Except.ok.inj h
    rfl
  | some f =>
    rw [(convert_some_eq_ok_iff.1 h).2]
    exact allSteps_plan c fileName f

theorem stubs_of_convert (h : convert c fileName d = .ok p) :
    p.stubs = (d.map (stubsOf c)).getD [] := by
  cases d with
  | none =>
    obtain rfl := Except.ok.inj h
    rfl
  | some f =>
    rw [(convert_some_eq_ok_iff.1 h).2]
    rfl

end

end Acceptance.Plan
