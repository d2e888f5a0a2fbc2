import Acceptance.Proofs.Plan.Scenarios

/-!
# A plan keeps its document

The children of a feature are planned one by one; then the scenarios outside of any rule are
gathered in one rule at the place of the first of them.  So the rules of a plan are those of the
document in their order with that rule among them, and every background, scenario and step line of
the document is in the plan once.

    planChildren … (xs ++ ys) = planChildren … xs ++ planChildren … ys        (planChildren_append)
    RulesKept children (gather … (planChildren … children))                    (rulesKept_gather)
    (gatheredScenarios …).Perm (scenariosOf children)                           (perm_gathered)
    convert c fileName d = .ok p, at most one background → p.KeepsDocument d    (plan_keeps_document)
-/

namespace Acceptance.Plan

open Acceptance.Text

/-! ## Algorithm -/

/-- The children of the feature of a document. -/
def childrenOf (d : Gherkin.Document) : List Gherkin.Child := (d.map (·.children)).getD []

/-- The backgrounds among children. -/
def backgroundsOf (children : List Gherkin.Child) : List Gherkin.Background :=
  children.filterMap fun
    | .background b => some b
    | _ => none

/-- The rules among children. -/
def rulesOf (children : List Gherkin.Child) : List Gherkin.Rule :=
  children.filterMap fun
    | .rule r => some r
    | _ => none

/-- The scenarios of children and of their rules, as they stand. -/
def scenariosOf (children : List Gherkin.Child) : List Gherkin.Scenario :=
  children.flatMap fun
    | .scenario s => [s]
    | .rule r => ruleScenarios r
    | .background _ => []

/-- The step lines of children, those of the backgrounds first. -/
def stepLines (children : List Gherkin.Child) : List Gherkin.Step :=
  (backgroundsOf children).flatMap (·.steps) ++ (scenariosOf children).flatMap (·.steps)

/-- A step line with its step. -/
structure Step.Keeps (line : Gherkin.Step) (x : Step) : Prop where
  text : x.text = line.text
  keyword : x.keyword = strip line.keyword
  table : x.table.isSome = line.table.isSome

/-- A scenario with its plan, which has a step for each step line in order. -/
structure Scenario.Keeps (s : Gherkin.Scenario) (q : Scenario) : Prop where
  name : q.name = s.name
  steps : List.Forall₂ Step.Keeps s.steps q.steps

/-- A rule with its plan, which has a scenario for each scenario in order. -/
structure Rule.Keeps (r : Gherkin.Rule) (q : Rule) : Prop where
  name : q.name = r.name
  scenarios : List.Forall₂ Scenario.Keeps (ruleScenarios r) q.scenarios

/-- The rule for the scenarios outside of any. -/
structure Rule.Gathers (bare : List Gherkin.Scenario) (q : Rule) : Prop where
  name : q.name = some "All scenarios"
  description : q.description = ""
  scenarios : List.Forall₂ Scenario.Keeps bare q.scenarios

/-- The rules of children in a plan: theirs in order, and where scenarios stand outside of any rule
one more at the place of the first of these, which holds them all. -/
structure RulesKept (children : List Gherkin.Child) (rules : List Rule) : Prop where
  ruled : bareScenarios children = [] → List.Forall₂ Rule.Keeps (rulesOf children) rules
  gathered : ∀ before s behind, children = before ++ .scenario s :: behind →
    bareScenarios before = [] → ∃ above gathering below, rules = above ++ gathering :: below ∧
      List.Forall₂ Rule.Keeps (rulesOf before) above ∧
      gathering.Gathers (bareScenarios children) ∧
      List.Forall₂ Rule.Keeps (rulesOf behind) below

/-- A plan in which nothing of a document is lost, repeated or moved. -/
structure KeepsDocument (d : Gherkin.Document) (p : Plan) : Prop where
  background : List.Forall₂ (fun b xs => List.Forall₂ Step.Keeps b.steps xs)
    (backgroundsOf (childrenOf d)) p.background.toList
  rules : RulesKept (childrenOf d) p.rules
  /-- The steps are those of all step lines, each once. -/
  allSteps : ∃ lines, lines.Perm (stepLines (childrenOf d)) ∧
    List.Forall₂ Step.Keeps lines p.allSteps

/-! ## Steps -/

theorem lines_occurrencesFrom (current : StepKind) (n : Nat) (steps : List Gherkin.Step) :
    (occurrencesFrom current n steps).map (·.line) = steps := by
  induction steps generalizing current n with
  | nil => rfl
  | cons line steps ih => simp only [occurrencesFrom, List.map_cons, ih]

section
variable (c : Catalog) (stubs : List Stub)

theorem keeps_plan (o : Outline) (l : Occurrence) : Step.Keeps l.line (l.plan c stubs o) := by
  obtain ⟨htext, htable⟩ := PlanLine.step_text_table c stubs ⟨o, l⟩
  refine ⟨htext, ?_, ?_⟩
  · unfold Occurrence.plan
    split <;> rfl
  · have hsome : (l.plan c stubs o).table = l.table? := htable
    rw [hsome, Occurrence.table?, Option.isSome_map]

/-- **One step for each line**, in order. -/
theorem keeps_steps (o : Outline) (steps : List Gherkin.Step) :
    List.Forall₂ Step.Keeps steps ((occurrences steps).map fun l => l.plan c stubs o) := by
  have hlines : (occurrences steps).map (·.line) = steps := lines_occurrencesFrom .context 0 steps
  have hkeeps : List.Forall₂ Step.Keeps ((occurrences steps).map (·.line))
      ((occurrences steps).map fun l => l.plan c stubs o) := by
    rw [List.forall₂_map_left_iff, List.forall₂_map_right_iff, List.forall₂_same]
    exact fun l _ => keeps_plan c stubs o l
  rwa [hlines] at hkeeps

/-! ## Scenarios and rules -/

theorem keeps_of_plannedAs {s : Gherkin.Scenario} {q : Scenario} (h : PlannedAs c stubs s q) :
    Scenario.Keeps s q := by
  obtain ⟨method, rfl⟩ := h
  exact ⟨rfl, keeps_steps c stubs (outlineOf s.examples) s.steps⟩

theorem keeps_bare (taken : List String) (children : List Gherkin.Child) :
    List.Forall₂ Scenario.Keeps (bareScenarios children)
      ((planChildren c stubs taken children).filterMap Planned.bare?) :=
  (plannedAs_bare c stubs taken children).imp fun _ _ => keeps_of_plannedAs c stubs

theorem keeps_rules (taken : List String) (children : List Gherkin.Child) :
    List.Forall₂ Rule.Keeps (rulesOf children)
      ((planChildren c stubs taken children).filterMap Planned.rule?) := by
  induction children generalizing taken with
  | nil => exact .nil
  | cons child rest ih =>
    cases child with
    | background b => exact ih taken
    | scenario s => exact ih _
    | rule r =>
      have hscenarios := plannedAs_planScenarios c stubs taken (ruleScenarios r)
      exact .cons ⟨rfl, hscenarios.imp fun _ _ => keeps_of_plannedAs c stubs⟩ (ih _)

/-- Children behind others are planned like children behind more names. -/
theorem planChildren_append (taken : List String) (xs ys : List Gherkin.Child) :
    ∃ taken', planChildren c stubs taken (xs ++ ys) =
      planChildren c stubs taken xs ++ planChildren c stubs taken' ys := by
  induction xs generalizing taken with
  | nil => exact ⟨taken, rfl⟩
  | cons x xs ih =>
    cases x with
    | background b => exact ih taken
    | scenario s =>
      obtain ⟨taken', h⟩ := ih ((planScenario c stubs (unique (scenarioName s) taken) s).method :: taken)
      exact ⟨taken', congrArg _ h⟩
    | rule r =>
      obtain ⟨taken', h⟩ :=
        ih (((planScenarios c stubs taken (ruleScenarios r)).map (·.method)).reverse ++ taken)
      exact ⟨taken', congrArg _ h⟩

end

/-! ## Gathering -/

section
variable (bare : List Scenario) {planned : List Planned}

theorem gather_of_no_bare (h : planned.filterMap Planned.bare? = []) :
    gather bare planned = planned.filterMap Planned.rule? := by
  induction planned with
  | nil => rfl
  | cons x planned ih =>
    cases x with
    | bare s => cases h
    | rule r => exact congrArg (r :: ·) (ih h)

theorem gather_append (h : planned.filterMap Planned.bare? = []) (q : Scenario)
    (others : List Planned) : gather bare (planned ++ .bare q :: others) =
      planned.filterMap Planned.rule? ++
        ⟨some defaultRuleName, "", bare⟩ :: others.filterMap Planned.rule? := by
  induction planned with
  | nil => rfl
  | cons x planned ih =>
    cases x with
    | bare s => cases h
    | rule r => exact congrArg (r :: ·) (ih h)

end

/-- **The rules of a plan are those of the document**, with the one that gathers among them. -/
theorem rulesKept_gather (c : Catalog) (stubs : List Stub) (children : List Gherkin.Child) :
    RulesKept children (gather ((planChildren c stubs [] children).filterMap Planned.bare?)
      (planChildren c stubs [] children)) := by
  have hnone : ∀ taken xs, bareScenarios xs = [] →
      (planChildren c stubs taken xs).filterMap Planned.bare? = [] := by
    intro taken xs hxs
    have hkeeps := keeps_bare c stubs taken xs
    rw [hxs] at hkeeps
    exact List.forall₂_nil_left_iff.1 hkeeps
  refine ⟨fun hbare => ?_, fun before s behind hchildren hbefore => ?_⟩
  · rw [gather_of_no_bare _ (hnone [] children hbare)]
    exact keeps_rules c stubs [] children
  · have hgathered := keeps_bare c stubs [] children
    generalize (planChildren c stubs [] children).filterMap Planned.bare? = bare at hgathered ⊢
    obtain ⟨taken, happend⟩ := planChildren_append c stubs [] before (.scenario s :: behind)
    rw [← hchildren] at happend
    rw [happend, planChildren, gather_append bare (hnone [] before hbefore)]
    exact ⟨_, _, _, rfl, keeps_rules c stubs [] before, ⟨rfl, rfl, hgathered⟩,
      keeps_rules c stubs _ behind⟩

/-! ## All steps -/

theorem perm_scenariosOf (children : List Gherkin.Child) :
    (scenariosOf children).Perm (bareScenarios children ++ ruledScenarios children) := by
  induction children with
  | nil => exact .refl _
  | cons child rest ih =>
    cases child with
    | background b => exact ih
    | scenario s => exact ih.cons s
    | rule r => exact (ih.append_left (ruleScenarios r)).trans (List.perm_append_comm_assoc ..)

theorem perm_gatheredScenarios (bare : List Gherkin.Scenario) (children : List Gherkin.Child) :
    (gatheredScenarios bare children).Perm
      ((if bareScenarios children = [] then [] else bare) ++ ruledScenarios children) := by
  induction children with
  | nil => exact .refl _
  | cons child rest ih =>
    cases child with
    | background b => exact ih
    | scenario s => exact .refl _
    | rule r => exact (ih.append_left (ruleScenarios r)).trans (List.perm_append_comm_assoc ..)

/-- **Gathering moves scenarios and keeps them all.** -/
theorem perm_gathered (children : List Gherkin.Child) :
    (gatheredScenarios (bareScenarios children) children).Perm (scenariosOf children) := by
  have hgathered := perm_gatheredScenarios (bareScenarios children) children
  have hbare : (if bareScenarios children = [] then [] else bareScenarios children) =
      bareScenarios children := by
    split
    · next h => exact h.symm
    · rfl
  rw [hbare] at hgathered
  exact hgathered.trans (perm_scenariosOf children).symm

/-- The last of at most one is the one. -/
theorem toList_getLast? {α : Type} {xs : List α} (h : xs.length ≤ 1) : xs.getLast?.toList = xs := by
  match xs, h with
  | [], _ => rfl
  | [x], _ => rfl

theorem backgroundsOf_children (f : Gherkin.Feature) : backgroundsOf f.children = backgrounds f := rfl

section
variable (c : Catalog) (fileName : String) {f : Gherkin.Feature}
  (hone : (backgroundsOf f.children).length ≤ 1)

include hone

theorem keeps_background : List.Forall₂ (fun b xs => List.Forall₂ Step.Keeps b.steps xs)
    (backgroundsOf f.children) (plan c fileName f).background.toList := by
  have hplanned : (plan c fileName f).background = (backgroundsOf f.children).getLast?.map fun b =>
      (occurrences b.steps).map fun l => l.plan c (stubsOf c f) [] := rfl
  rw [hplanned, Option.toList_map, toList_getLast? hone, List.forall₂_map_right_iff,
    List.forall₂_same]
  exact fun b _ => keeps_steps c (stubsOf c f) [] b.steps

/-- **All steps are those of all lines**, scenario by scenario in the order of the plan. -/
theorem keeps_allSteps : List.Forall₂ Step.Keeps ((backgroundsOf f.children).flatMap (·.steps) ++
      (gatheredScenarios (bareScenarios f.children) f.children).flatMap (·.steps))
    (plan c fileName f).allSteps := by
  have hscenarios := (scenarios_plan c fileName f).imp fun _ _ => keeps_of_plannedAs c (stubsOf c f)
  have hall : (plan c fileName f).allSteps = (plan c fileName f).background.toList.flatMap id ++
      (plan c fileName f).scenarios.flatMap (·.steps) := by
    rw [allSteps, scenarios, List.flatMap_assoc]
    cases (plan c fileName f).background <;> simp
  rw [hall]
  refine List.rel_append ?_ ?_
  · exact List.rel_flatMap (keeps_background c fileName hone) fun _ _ h => h
  · exact List.rel_flatMap hscenarios fun _ _ h => h.steps

end

/-! ## Top theorem -/

/-- **A plan keeps its document.**  The plan of a document with at most one background has the
document's rules in order, each with its scenarios in order, and the scenarios outside of any rule
in one rule more at the place of the first of them; the background and every scenario have a step
for each step line in order; and the steps of the plan are those of all step lines, each once. -/
theorem plan_keeps_document {c : Catalog} {fileName : String} {d : Gherkin.Document} {p : Plan}
    (h : convert c fileName d = .ok p) (hone : (backgroundsOf (childrenOf d)).length ≤ 1) :
    p.KeepsDocument d := by
  cases d with
  | none =>
    obtain rfl := Except.ok.inj h
    refine ⟨.nil, ⟨fun _ => .nil, fun before s behind hnil => ?_⟩, [], .refl _, .nil⟩
    exact absurd hnil.symm (by simp [childrenOf])
  | some f =>
    obtain ⟨-, rfl⟩ := convert_some_eq_ok_iff.1 h
    refine ⟨keeps_background c fileName hone, rulesKept_gather c (stubsOf c f) f.children, _, ?_,
      keeps_allSteps c fileName hone⟩
    exact ((perm_gathered f.children).flatMap_right _).append_left _

/-- A scenario of one step. -/
def oneStep (name : String) (table : Option (List Gherkin.Row)) : Gherkin.Scenario :=
  { tags := [], keyword := "Scenario", name, description := "", examples := [],
    steps := [⟨" And ", .conjunction, name, table⟩] }

/-- A rule of one scenario. -/
def oneScenario (name : String) : Gherkin.Rule :=
  { tags := [], keyword := "Rule", name := some name, description := "",
    children := [.scenario (oneStep name none)] }

/-- Scenarios outside of any rule before and behind a rule, one of them named like another. -/
def mixedFeature : Gherkin.Feature :=
  { tags := [], language := "en", keyword := "Feature", name := "Mixed", description := "",
    children := [.rule (oneScenario "first"), .scenario (oneStep "one" (some [[⟨some "c"⟩]])),
      .rule (oneScenario "second"), .scenario (oneStep "one" none),
      .background ⟨"Background", "", "", [⟨"Given ", .kind .context, "all", none⟩]⟩] }

theorem mixedFeature_kept : ∃ p above gathering below,
    convert [] "mixed" (some mixedFeature) = .ok p ∧ p.rules = above ++ gathering :: below ∧
      above.map (·.name) = [some "first"] ∧ below.map (·.name) = [some "second"] ∧
      gathering.name = some "All scenarios" ∧ gathering.scenarios.map (·.name) = ["one", "one"] ∧
      p.allSteps.length = 5 := by
  have hc : convert [] "mixed" (some mixedFeature) = .ok (plan [] "mixed" mixedFeature) :=
    convert_some_eq_ok_iff.2 ⟨by decide +kernel, rfl⟩
  obtain ⟨-, hrules, lines, hperm, hsteps⟩ := plan_keeps_document hc (by decide)
  obtain ⟨above, gathering, below, hsplit, habove, hgathers, hbelow⟩ :=
    hrules.gathered [.rule (oneScenario "first")] _ _ rfl rfl
  obtain ⟨q, qs, hq, hqs, rfl⟩ := List.forall₂_cons_left_iff.1 habove
  obtain rfl := List.forall₂_nil_left_iff.1 hqs
  obtain ⟨r, rs, hr, hrs, rfl⟩ := List.forall₂_cons_left_iff.1 hbelow
  obtain rfl := List.forall₂_nil_left_iff.1 hrs
  obtain ⟨s, ss, hs, hss, hscenarios⟩ := List.forall₂_cons_left_iff.1 hgathers.scenarios
  obtain ⟨t, ts, ht, hts, rfl⟩ := List.forall₂_cons_left_iff.1 hss
  obtain rfl := List.forall₂_nil_left_iff.1 hts
  refine ⟨_, _, gathering, _, hc, hsplit, ?_, ?_, hgathers.name, ?_, ?_⟩
  · rw [List.map_singleton, hq.name]
    rfl
  · rw [List.map_singleton, hr.name]
    rfl
  · rw [hscenarios, List.map_cons, List.map_singleton, hs.name, ht.name]
    rfl
  · rw [← hsteps.length_eq, hperm.length_eq]
    rfl

end Acceptance.Plan
