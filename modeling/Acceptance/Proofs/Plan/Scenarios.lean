import Acceptance.Proofs.Gherkin.Shape
import Acceptance.Proofs.Plan.Lines
import Mathlib.Data.List.Forall2

/-!
# The scenarios of a plan

The scenarios of a plan are the plans of the feature's scenarios, one by one: those outside of any
rule stand together at the place of the first of them.  Where the rules come last, as the reader
puts them, that is the order of the document.

    Forall₂ (PlannedAs c (stubsOf c f)) (gathered scenarios of f) (plan c fileName f).scenarios
                                                                               (scenarios_plan)
    f.Shaped → the gathered scenarios of f are allScenarios f          (gatheredScenarios_of_shaped)
-/

namespace Acceptance.Plan

/-- The scenarios of a plan, rule by rule. -/
def scenarios (p : Plan) : List Scenario := p.rules.flatMap (·.scenarios)

/-- A scenario with its plan, under whatever method. -/
def PlannedAs (c : Catalog) (stubs : List Stub) (s : Gherkin.Scenario) (q : Scenario) : Prop :=
  ∃ method, q = planScenario c stubs method s

/-! ## Planned scenarios -/

section
variable (c : Catalog) (stubs : List Stub)

theorem plannedAs_planScenarios (taken : List String) (ss : List Gherkin.Scenario) :
    List.Forall₂ (PlannedAs c stubs) ss (planScenarios c stubs taken ss) := by
  induction ss generalizing taken with
  | nil => exact .nil
  | cons s ss ih => exact .cons ⟨_, rfl⟩ (ih _)

theorem plannedAs_bare (taken : List String) (children : List Gherkin.Child) :
    List.Forall₂ (PlannedAs c stubs) (bareScenarios children)
      ((planChildren c stubs taken children).filterMap Planned.bare?) := by
  induction children generalizing taken with
  | nil => exact .nil
  | cons child rest ih =>
    cases child with
    | background b => exact ih taken
    | scenario s => exact .cons ⟨_, rfl⟩ (ih _)
    | rule r => exact ih _

theorem plannedAs_ruled (taken : List String) (children : List Gherkin.Child) :
    List.Forall₂ (PlannedAs c stubs) (ruledScenarios children)
      (((planChildren c stubs taken children).filterMap Planned.rule?).flatMap (·.scenarios)) := by
  induction children generalizing taken with
  | nil => exact .nil
  | cons child rest ih =>
    cases child with
    | background b => exact ih taken
    | scenario s => exact ih _
    | rule r =>
      exact List.rel_append (plannedAs_planScenarios c stubs taken (ruleScenarios r)) (ih _)

/-- Gathering planned scenarios is gathering scenarios. -/
theorem plannedAs_gather (taken : List String) {planned : List Scenario}
    {bare : List Gherkin.Scenario} (children : List Gherkin.Child)
    (h : List.Forall₂ (PlannedAs c stubs) bare planned) :
    List.Forall₂ (PlannedAs c stubs) (gatheredScenarios bare children)
      ((gather planned (planChildren c stubs taken children)).flatMap (·.scenarios)) := by
  induction children generalizing taken with
  | nil => exact .nil
  | cons child rest ih =>
    cases child with
    | background b => exact ih taken
    | scenario s => exact List.rel_append h (plannedAs_ruled c stubs _ rest)
    | rule r =>
      exact List.rel_append (plannedAs_planScenarios c stubs taken (ruleScenarios r)) (ih _)

end

/-- **The scenarios of a plan are those of the feature.** -/
theorem scenarios_plan (c : Catalog) (fileName : String) (f : Gherkin.Feature) :
    List.Forall₂ (PlannedAs c (stubsOf c f))
      (gatheredScenarios (bareScenarios f.children) f.children) (plan c fileName f).scenarios :=
  plannedAs_gather c (stubsOf c f) [] f.children (plannedAs_bare c (stubsOf c f) [] f.children)

theorem exists_scenario_of_mem {c : Catalog} {fileName : String} {f : Gherkin.Feature} {q : Scenario}
    (h : q ∈ (plan c fileName f).scenarios) :
    ∃ s ∈ gatheredScenarios (bareScenarios f.children) f.children, PlannedAs c (stubsOf c f) s q := by
  obtain ⟨i, hi, rfl⟩ := List.mem_iff_getElem.1 h
  have hplanned := scenarios_plan c fileName f
  have hlen := hplanned.length_eq
  exact ⟨_, List.getElem_mem (hlen ▸ hi), hplanned.get _ hi⟩

/-! ## Scenarios of a shaped feature -/

theorem gatheredScenarios_backgrounds (bare : List Gherkin.Scenario)
    (bs : List Gherkin.Background) (rest : List Gherkin.Child) :
    gatheredScenarios bare (bs.map .background ++ rest) = gatheredScenarios bare rest := by
  induction bs with
  | nil => rfl
  | cons b bs ih => exact ih

theorem gatheredScenarios_rules (bare : List Gherkin.Scenario) (rs : List Gherkin.Rule) :
    gatheredScenarios bare (rs.map .rule) = rs.flatMap ruleScenarios := by
  induction rs with
  | nil => rfl
  | cons r rs ih => simp only [List.map_cons, gatheredScenarios, ih, List.flatMap_cons]

theorem ruledScenarios_scenarios (ss : List Gherkin.Scenario) (rs : List Gherkin.Rule) :
    ruledScenarios (ss.map .scenario ++ rs.map .rule) = rs.flatMap ruleScenarios := by
  simp [ruledScenarios, List.flatMap_append, List.flatMap_map]

/-- Where the rules come last, gathering keeps the order of the document. -/
theorem gatheredScenarios_of_shaped {f : Gherkin.Feature} (h : f.Shaped) :
    gatheredScenarios (bareScenarios f.children) f.children = allScenarios f := by
  obtain ⟨bs, ss, rs, hchildren, -⟩ := h
  have hbare : bareScenarios f.children = ss := by
    simp [hchildren, bareScenarios, List.filterMap_append, List.filterMap_map]
  have hall : allScenarios f = ss ++ rs.flatMap ruleScenarios := by
    simp [hchildren, allScenarios, List.flatMap_append, List.flatMap_map]
  rw [hbare, hall, hchildren, List.append_assoc, gatheredScenarios_backgrounds]
  cases ss with
  | nil => exact gatheredScenarios_rules [] rs
  | cons s ss =>
    simp only [List.map_cons, List.cons_append, gatheredScenarios, ruledScenarios_scenarios]

end Acceptance.Plan
