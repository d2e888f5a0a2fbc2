import Acceptance.Generation
import Acceptance.Plan.Exchange
import Acceptance.Proofs.Plan.Stubs
import Mathlib.Data.List.Basic

/-!
# The order of a catalog

A look-up answers with the first definition that accepts a line, so that the order of a catalog
decides where several do.  Where all that accept a line are one definition, the catalog in another
order accepts the same; and a conversion asks for nothing else, be it for the first fault, for the
stubs and modules in the order of the lines, or for what it reports.

    C.Perm D → C.Unambiguous keyword text →
      C.findAll keyword text = D.findAll keyword text                    (findAll_eq_of_perm)
    (∀ l ∈ allOccurrences f, l.Alike C D) → plan C fileName f = plan D fileName f
                                                                          (plan_of_alike)
    C.Perm D → every line is unambiguous → convert C fileName d = convert D fileName d
-/

namespace Acceptance

/-! ## Look-up -/

namespace Catalog

variable {C D : Catalog} {keyword text : String}

/-- Whatever accepts a line is one definition, registered once or more often. -/
def Unambiguous (c : Catalog) (keyword text : String) : Prop :=
  ∀ a ∈ c.findAll keyword text, ∀ b ∈ c.findAll keyword text, a = b

instance : Decidable (C.Unambiguous keyword text) :=
  inferInstanceAs (Decidable (∀ a ∈ C.findAll keyword text, ∀ b ∈ C.findAll keyword text, a = b))

theorem findAll_perm (perm : C.Perm D) :
    (C.findAll keyword text).Perm (D.findAll keyword text) := by
  have hcandidates : (C.candidates keyword).Perm (D.candidates keyword) := perm.filter _
  exact (hcandidates.filter _).append (hcandidates.filter _)

/-- **One definition has one order.** -/
theorem findAll_eq_of_perm (perm : C.Perm D) (one : C.Unambiguous keyword text) :
    C.findAll keyword text = D.findAll keyword text := by
  have hperm : (C.findAll keyword text).Perm (D.findAll keyword text) := findAll_perm perm
  have hall : ∀ {ds : List StepDefinition}, ds.Pairwise fun _ _ => True :=
    List.pairwise_iff_forall_sublist.2 fun _ => trivial
  refine hperm.eq_of_pairwise ?_ hall hall
  intro a b ha hb _ _
  exact one a ha b (hperm.mem_iff.2 hb)

end Catalog

namespace Plan

/-! ## Lines -/

/-- Two catalogs accept a line by the same definitions in the same order. -/
def Occurrence.Alike (C D : Catalog) (l : Occurrence) : Prop :=
  C.findAll l.kind.word l.line.text = D.findAll l.kind.word l.line.text

section
variable {C D : Catalog} {l : Occurrence} {ls : List Occurrence}

theorem Occurrence.Alike.resolution? (h : l.Alike C D) : l.resolution? C = l.resolution? D := by
  unfold Occurrence.resolution? Catalog.resolve?
  rw [Catalog.find?_eq_head?, Catalog.find?_eq_head?, h]

theorem Occurrence.Alike.plan (h : l.Alike C D) (stubs : List Stub) (o : Outline) :
    l.plan C stubs o = l.plan D stubs o := by
  unfold Occurrence.plan
  rw [h.resolution?]

theorem Occurrence.Alike.trial (h : l.Alike C D) (stubs : List Stub) :
    l.trial C stubs = l.trial D stubs := by
  have hlog : C.ambiguity l.kind.word l.line.text = D.ambiguity l.kind.word l.line.text := by
    unfold Catalog.ambiguity
    rw [h]
  unfold Occurrence.trial
  rw [h.resolution?, hlog]

theorem collect_of_alike (h : ∀ l ∈ ls, l.Alike C D) : Stub.collect C ls = Stub.collect D ls := by
  unfold Stub.collect
  rw [List.filter_congr fun l hl => by rw [(h l hl).resolution?]]

end

/-! ## Scenarios -/

section
variable {C D : Catalog} {stubs : List Stub}

/-- Two catalogs accept every line of a scenario by the same definitions. -/
def ScenarioAlike (C D : Catalog) (s : Gherkin.Scenario) : Prop :=
  ∀ l ∈ occurrences s.steps, l.Alike C D

theorem planScenario_of_alike {s : Gherkin.Scenario} (h : ScenarioAlike C D s) (method : String) :
    planScenario C stubs method s = planScenario D stubs method s := by
  have hsteps : (occurrences s.steps).map (fun l => l.plan C stubs (outlineOf s.examples)) =
      (occurrences s.steps).map fun l => l.plan D stubs (outlineOf s.examples) :=
    List.map_congr_left fun l hl => (h l hl).plan stubs (outlineOf s.examples)
  simp only [planScenario, hsteps]

theorem planScenarios_of_alike {ss : List Gherkin.Scenario} (h : ∀ s ∈ ss, ScenarioAlike C D s)
    (taken : List String) : planScenarios C stubs taken ss = planScenarios D stubs taken ss := by
  induction ss generalizing taken with
  | nil => rfl
  | cons s ss ih =>
    obtain ⟨hs, hss⟩ := List.forall_mem_cons.1 h
    rw [planScenarios, planScenarios, planScenario_of_alike hs]
    simp only [ih hss]

theorem planChildren_of_alike {children : List Gherkin.Child}
    (bare : ∀ s ∈ bareScenarios children, ScenarioAlike C D s)
    (ruled : ∀ s ∈ ruledScenarios children, ScenarioAlike C D s) (taken : List String) :
    planChildren C stubs taken children = planChildren D stubs taken children := by
  induction children generalizing taken with
  | nil => rfl
  | cons child rest ih =>
    have hrest : ∀ taken, planChildren C stubs taken rest = planChildren D stubs taken rest := by
      refine ih ?_ ?_
      · intro s hs
        exact bare s (mem_bareScenarios.2 (List.mem_cons_of_mem _ (mem_bareScenarios.1 hs)))
      · intro s hs
        obtain ⟨r, hr, hsr⟩ := mem_ruledScenarios.1 hs
        exact ruled s (mem_ruledScenarios.2 ⟨r, List.mem_cons_of_mem _ hr, hsr⟩)
    cases child with
    | background b => exact hrest taken
    | scenario s =>
      have hs : ScenarioAlike C D s := bare s (mem_bareScenarios.2 List.mem_cons_self)
      rw [planChildren, planChildren, planScenario_of_alike hs]
      simp only [hrest]
    | rule r =>
      have hr : ∀ s ∈ ruleScenarios r, ScenarioAlike C D s := fun s hs =>
        ruled s (mem_ruledScenarios.2 ⟨r, List.mem_cons_self, mem_ruleScenarios.1 hs⟩)
      rw [planChildren, planChildren, planScenarios_of_alike hr]
      simp only [hrest]

theorem scenarioTrials_of_alike {s : Gherkin.Scenario} (h : ScenarioAlike C D s) :
    scenarioTrials C stubs s = scenarioTrials D stubs s := by
  unfold scenarioTrials stepTrials
  rw [List.map_congr_left fun l hl => (h l hl).trial stubs]

/-- Children are tried alike where their scenarios are; a background of a rule is a fault before
its lines are looked at. -/
theorem childTrials_of_alike {child : Gherkin.Child}
    (bare : ∀ s, child = .scenario s → ScenarioAlike C D s)
    (ruled : ∀ r, child = .rule r → ∀ s ∈ ruleScenarios r, ScenarioAlike C D s) :
    childTrials C stubs child = childTrials D stubs child := by
  cases child with
  | background b => rfl
  | scenario s => exact scenarioTrials_of_alike (bare s rfl)
  | rule r =>
    unfold childTrials
    refine List.flatMap_congr fun part hpart => ?_
    cases part with
    | background b => rfl
    | scenario s => exact scenarioTrials_of_alike (ruled r rfl s (mem_ruleScenarios.2 hpart))

end

/-! ## Features -/

section
variable {C D : Catalog} {f : Gherkin.Feature}

/-- The scenarios of a feature whose lines are accepted alike. -/
theorem scenarioAlike_of_mem (h : ∀ l ∈ allOccurrences f, l.Alike C D) {s : Gherkin.Scenario}
    (hs : s ∈ allScenarios f) : ScenarioAlike C D s := by
  intro l hl
  exact h l (mem_allOccurrences.2 (.inr ⟨s, hs, hl⟩))

theorem backgroundAlike_of_mem (h : ∀ l ∈ allOccurrences f, l.Alike C D) {b : Gherkin.Background}
    (hb : b ∈ backgrounds f) : ∀ l ∈ occurrences b.steps, l.Alike C D := by
  intro l hl
  exact h l (mem_allOccurrences.2 (.inl ⟨b, hb, hl⟩))

theorem stubsOf_of_alike (h : ∀ l ∈ allOccurrences f, l.Alike C D) : stubsOf C f = stubsOf D f :=
  collect_of_alike h

theorem usedDefinitions_of_alike (h : ∀ l ∈ allOccurrences f, l.Alike C D) :
    usedDefinitions C f = usedDefinitions D f := by
  unfold usedDefinitions
  exact List.filterMap_congr fun l hl => by rw [(h l hl).resolution?]

/-- **A plan depends on the answers to its lines.** -/
theorem plan_of_alike (h : ∀ l ∈ allOccurrences f, l.Alike C D) (fileName : String) :
    plan C fileName f = plan D fileName f := by
  have hchildren : planChildren C (stubsOf D f) [] f.children =
      planChildren D (stubsOf D f) [] f.children :=
    planChildren_of_alike
      (fun s hs => scenarioAlike_of_mem h (mem_allScenarios.2 (.inl (mem_bareScenarios.1 hs))))
      (fun s hs => scenarioAlike_of_mem h (mem_allScenarios.2 (.inr (mem_ruledScenarios.1 hs)))) []
  have hbackground : ((backgrounds f).getLast?.map fun b =>
        (occurrences b.steps).map fun l => l.plan C (stubsOf D f) []) =
      (backgrounds f).getLast?.map fun b =>
        (occurrences b.steps).map fun l => l.plan D (stubsOf D f) [] := by
    cases hlast : (backgrounds f).getLast? with
    | none => rfl
    | some b =>
      have hlines := backgroundAlike_of_mem h (List.mem_of_getLast? hlast)
      exact congrArg some (List.map_congr_left fun l hl => (hlines l hl).plan (stubsOf D f) [])
  unfold plan
  simp only [stubsOf_of_alike h, usedDefinitions_of_alike h, hchildren, hbackground]

/-- **So do its trials.** -/
theorem trials_of_alike (h : ∀ l ∈ allOccurrences f, l.Alike C D) : trials C f = trials D f := by
  have hbackgrounds : (backgrounds f).flatMap (fun b => stepTrials C (stubsOf D f) b.steps) =
      (backgrounds f).flatMap fun b => stepTrials D (stubsOf D f) b.steps := by
    refine List.flatMap_congr fun b hb => ?_
    exact List.map_congr_left fun l hl => (backgroundAlike_of_mem h hb l hl).trial (stubsOf D f)
  have hchildren : f.children.flatMap (childTrials C (stubsOf D f)) =
      f.children.flatMap (childTrials D (stubsOf D f)) := by
    refine List.flatMap_congr fun child hchild => childTrials_of_alike ?_ ?_
    · rintro s rfl
      exact scenarioAlike_of_mem h (mem_allScenarios.2 (.inl hchild))
    · rintro r rfl s hs
      exact scenarioAlike_of_mem h (mem_allScenarios.2 (.inr ⟨r, hchild, mem_ruleScenarios.1 hs⟩))
  unfold trials
  simp only [stubsOf_of_alike h, hbackgrounds, hchildren]

end

/-! ## Documents -/

/-- A document converts alike under catalogs that accept its lines alike. -/
theorem convert_of_alike {C D : Catalog} {d : Gherkin.Document}
    (h : ∀ f, d = some f → ∀ l ∈ allOccurrences f, l.Alike C D) (fileName : String) :
    convert C fileName d = convert D fileName d ∧ conversionLog C d = conversionLog D d := by
  cases d with
  | none => exact ⟨rfl, rfl⟩
  | some f =>
    have htrials : trials C f = trials D f := trials_of_alike (h f rfl)
    constructor
    · simp only [convert, faults, htrials, plan_of_alike (h f rfl)]
    · simp only [conversionLog, htrials]

/-- The lines of a document that are matched, those of its backgrounds first. -/
def matchedLines (d : Gherkin.Document) : List Occurrence := (d.map allOccurrences).getD []

/-- A feature text gives the same test module, or is told the same, under catalogs that accept its
lines alike. -/
theorem generateFeature_of_alike {C D : Catalog} {content : String}
    (h : ∀ f, Gherkin.Document.read content = .ok (some f) → ∀ l ∈ allOccurrences f, l.Alike C D)
    (template fileName source : String) :
    generateFeature C template content fileName source =
      generateFeature D template content fileName source := by
  have hgenerate : generate C template content fileName =
      generate D template content fileName := by
    unfold generate
    cases hread : Gherkin.Document.read content with
    | error faults => rfl
    | ok d =>
      have hlines : ∀ f, d = some f → ∀ l ∈ allOccurrences f, l.Alike C D := by
        rintro f rfl
        exact h f hread
      simp only [(convert_of_alike hlines fileName).1]
  simp only [generateFeature, hgenerate]

/-! ## Top theorem -/

/-- **The order of a catalog does not matter where no line is ambiguous.**  A catalog in another
order gives a document the same plan or the same fault, and reports the same; so it does for what
was read of a tree, whatever stopped the reading. -/
theorem catalog_order_is_immaterial {C D : Catalog} (perm : C.Perm D) (fileName : String)
    (d : Gherkin.Document)
    (unambiguous : ∀ l ∈ matchedLines d, C.Unambiguous l.kind.word l.line.text) :
    convert C fileName d = convert D fileName d ∧ conversionLog C d = conversionLog D d ∧
      ∀ defect, convertPortion C fileName ⟨d, defect⟩ = convertPortion D fileName ⟨d, defect⟩ := by
  have halike : ∀ f, d = some f → ∀ l ∈ allOccurrences f, l.Alike C D := by
    rintro f rfl l hl
    exact Catalog.findAll_eq_of_perm perm (unambiguous l hl)
  obtain ⟨hconvert, hlog⟩ := convert_of_alike halike fileName
  refine ⟨hconvert, hlog, fun defect => ?_⟩
  simp only [convertPortion, hconvert]

/-- A definition for the third line of `waitFeature`. -/
def pauseDefinition : StepDefinition :=
  { kind := .action, pattern := "a \x7bthing\x7d waits", owner := "Pausing", module := "pauses",
    method := "pause", parameters := [⟨"str", "thing"⟩] }

/-- Two orders of a catalog that registers one definition twice.  The classes stand in the order
of the steps. -/
theorem waitFeature_in_two_orders :
    ∃ p, convert [overDefinition, pauseDefinition, overDefinition] "waiting" (some waitFeature) =
        .ok p ∧
      convert [pauseDefinition, overDefinition, overDefinition] "waiting" (some waitFeature) =
        .ok p ∧
      p.classes = ["Pausing", "Waiting"] := by
  have hp : convert [overDefinition, pauseDefinition, overDefinition] "waiting"
      (some waitFeature) =
        .ok (plan [overDefinition, pauseDefinition, overDefinition] "waiting" waitFeature) :=
    convert_some_eq_ok_iff.2 ⟨by decide +kernel, rfl⟩
  have hperm : [overDefinition, pauseDefinition, overDefinition].Perm
      [pauseDefinition, overDefinition, overDefinition] := .swap _ _ _
  obtain ⟨hsame, -, -⟩ := catalog_order_is_immaterial hperm "waiting" (some waitFeature)
    (by decide +kernel)
  exact ⟨_, hp, hsame.symm.trans hp, by decide +kernel⟩

end Plan

end Acceptance
