import Acceptance.Proofs.Rendering.Kept

/-!
# Free text in its place

Every free text of a plan has an element of the module that it stands in: a comment, a
documentation string or a literal.  With what an element keeps of its text, no free text of a
feature without carriage returns leaves the place that it is put in.

    s ∈ p.allSteps → stepElements s <:+: elements p                                   (step_within)
    p.Valued → Placed p                                                          (placed_of_valued)
    Document.read text = .ok d → '\r' ∉ text.toList → convert c fileName d = .ok p →
      the module of p keeps every text of p in its place                (free_text_stays_in_place)
-/

namespace Acceptance.Plan

open Acceptance.Text Acceptance.Source

/-! ## Algorithm -/

/-- The elements that the free texts of a plan stand in. -/
structure Placed (p : Plan) : Prop where
  steps : ∀ s ∈ p.allSteps, .comment 8 (s.keyword ++ " " ++ s.text) ∈ elements p
  ruleNames : ∀ r ∈ p.rules, .comment 4 ("Rule: " ++ textOrNone r.name) ∈ elements p
  ruleLines : ∀ r ∈ p.rules, r.description ≠ "" → ∀ line ∈ splitAt '\n' r.description.toList,
    .comment 4 (.ofList line) ∈ elements p
  opening : ∃ parts, .documentation parts ∈ elements p ∧ .free p.featureName ∈ parts ∧
    .free p.fileName ∈ parts
  feature : ∃ parts, .documentation parts ∈ elements p ∧ .free p.featureName ∈ parts ∧
    ∀ line ∈ p.description, .free line ∈ parts
  scenarios : ∀ q ∈ p.scenarios, ∃ parts, .documentation parts ∈ elements p ∧
    .free q.name ∈ parts ∧ ∀ line ∈ q.remarks, .free line ∈ parts
  arguments : ∀ s ∈ p.allSteps, ∀ a ∈ s.arguments, ∀ t, a.expression = .literal t →
    .quoted t ∈ elements p
  headers : ∀ s ∈ p.allSteps, ∀ t, s.table = some t → ∀ v ∈ t.headers,
    ∃ x, v = some x ∧ .markup x ∈ elements p
  cells : ∀ s ∈ p.allSteps, ∀ t, s.table = some t → ∀ row ∈ t.rows, ∀ v ∈ row,
    ∃ x, v = some x ∧ .markup x ∈ elements p
  cases : ∀ q ∈ p.scenarios, q.parameters ≠ [] → ∀ row ∈ q.cases, ∀ v ∈ row,
    ∃ x, v = some x ∧ .quoted x ∈ elements p
  stubs : ∀ s ∈ p.stubs, .markup s.title ∈ elements p ∧
    .markup ("Step not implemented: " ++ s.title) ∈ elements p

/-! ## Parts of the module -/

theorem within_flatMap {α β : Type} {f : α → List β} {a : α} {as : List α} (h : a ∈ as) :
    f a <:+: as.flatMap f := by
  obtain ⟨front, behind, rfl⟩ := List.append_of_mem h
  rw [List.flatMap_append, List.flatMap_cons, ← List.append_assoc]
  exact List.infix_append _ _ _

section
variable {p : Plan} {e : Element}

theorem mem_commas {es : List Element} (h : e ∈ es) : e ∈ commas es := by
  unfold commas
  induction es with
  | nil => cases h
  | cons f fs ih =>
    cases fs with
    | nil => exact h
    | cons g gs =>
      rw [List.intersperse_cons_cons]
      rcases List.mem_cons.1 h with rfl | h
      · exact List.mem_cons_self
      · exact List.mem_cons_of_mem _ (List.mem_cons_of_mem _ (ih h))

theorem rule_within {r : Rule} (hr : r ∈ p.rules) : ruleElements r <:+: elements p :=
  (within_flatMap hr).trans (List.infix_append _ _ _)

theorem scenario_within {q : Scenario} (hq : q ∈ p.scenarios) :
    scenarioElements q <:+: elements p := by
  obtain ⟨r, hr, hq⟩ := List.mem_flatMap.1 hq
  exact ((within_flatMap hq).trans List.infix_append_right).trans (rule_within hr)

theorem step_within_steps {s : Step} {ss : List Step} (hs : s ∈ ss) :
    stepElements s <:+: stepsElements ss :=
  List.infix_append_left.trans (@within_flatMap _ _ (fun s => stepElements s ++ [.code "\n"]) s ss hs)

theorem step_within {s : Step} (hs : s ∈ p.allSteps) : stepElements s <:+: elements p := by
  rcases List.mem_append.1 hs with hs | hs
  · cases hb : p.background with
    | none => simp [hb] at hs
    | some ss =>
      rw [hb, Option.getD_some] at hs
      have hsetup : stepElements s <:+: setupElements p := by
        rw [setupElements, hb]
        exact ((step_within_steps hs).trans (List.suffix_cons _ _).isInfix).trans
          List.infix_append_right
      unfold elements
      exact ((hsetup.trans List.infix_append_right).trans List.infix_append_left).trans
        List.infix_append_left
  · obtain ⟨r, hr, hs⟩ := List.mem_flatMap.1 hs
    obtain ⟨q, hq, hs⟩ := List.mem_flatMap.1 hs
    exact ((step_within_steps hs).trans List.infix_append_right).trans
      (scenario_within (List.mem_flatMap.2 ⟨r, hr, hq⟩))

theorem table_within {s : Step} {t : Table} (hs : s ∈ p.allSteps) (ht : s.table = some t) :
    tableElements t <:+: elements p := by
  refine List.IsInfix.trans ?_ (step_within hs)
  rw [stepElements, ht]
  exact ((List.infix_append _ _ _).trans List.infix_append_left).trans List.infix_append_left

theorem stub_within {s : Stub} (hs : s ∈ p.stubs) : stubElements s <:+: elements p := by
  have hstubs : stubElements s <:+: stubsElements p.stubs := by
    rw [stubsElements, if_neg (by simpa using List.ne_nil_of_mem hs)]
    exact (within_flatMap hs).trans
      ((List.suffix_cons _ _).trans (List.suffix_cons _ _)).isInfix
  exact hstubs.trans List.infix_append_right

theorem free_mem_docLines {indent line : String} {ls : List String} (h : line ∈ ls) :
    .free line ∈ docLines indent ls := by
  rw [docLines, if_neg]
  · exact List.mem_cons_of_mem _ (List.mem_flatMap.2 ⟨line, h, by simp⟩)
  · simpa using List.ne_nil_of_mem h

/-! ## Cells -/

theorem markup_mem_header {t : Table} {x : String} (h : some x ∈ t.headers) :
    .markup x ∈ tableElements t := by
  have : .markup x ∈ commas (t.headers.map cellElement) :=
    mem_commas (List.mem_map.2 ⟨some x, h, rfl⟩)
  simp [tableElements, tableExpression, this]

theorem exists_flag_of_mem {α : Type} {a : α} {as : List α} (h : a ∈ as) :
    ∃ last, (a, last) ∈ flagLast as := by
  rw [← map_fst_flagLast as] at h
  obtain ⟨⟨_, last⟩, hlast, rfl⟩ := List.mem_map.1 h
  exact ⟨last, hlast⟩

theorem markup_mem_row {t : Table} {row : List (Option String)} {x : String} (hrow : row ∈ t.rows)
    (h : some x ∈ row) : .markup x ∈ tableElements t := by
  obtain ⟨last, hlast⟩ := exists_flag_of_mem hrow
  have hcell : .markup x ∈ rowElements (row, last) := by
    have : .markup x ∈ commas (row.map cellElement) := mem_commas (List.mem_map.2 ⟨some x, h, rfl⟩)
    simp [rowElements, this]
  have : .markup x ∈ (flagLast t.rows).flatMap rowElements := List.mem_flatMap.2 ⟨_, hlast, hcell⟩
  rw [tableElements, tableExpression]
  simp only [List.mem_append, this, or_true, true_or]

theorem quoted_mem_cases {q : Scenario} {row : List (Option String)} {x : String}
    (hq : q.parameters ≠ []) (hrow : row ∈ q.cases) (h : some x ∈ row) :
    .quoted x ∈ scenarioElements q := by
  have hcell : .quoted x ∈ caseElements row := by
    have : .quoted x ∈ commas (row.map valueElement) := mem_commas (List.mem_map.2 ⟨some x, h, rfl⟩)
    simp [caseElements, this]
  have hcases : .quoted x ∈ casesElements q := by
    have : .quoted x ∈ q.cases.flatMap caseElements := List.mem_flatMap.2 ⟨row, hrow, hcell⟩
    rw [casesElements]
    exact List.mem_append_left _ (List.mem_append_right _ this)
  simp [scenarioElements, hq, hcases]

end

theorem placed_of_valued {p : Plan} (h : p.Valued) : Placed p where
  steps s hs := (step_within hs).subset (by simp [stepElements])
  ruleNames r hr := (rule_within hr).subset (by simp [ruleElements])
  ruleLines r hr hd line hline := by
    refine (rule_within hr).subset (List.mem_append_left _ (List.mem_append_right _ ?_))
    rw [if_neg hd]
    exact List.mem_map.2 ⟨line, hline, rfl⟩
  opening := ⟨_, List.mem_append_left _ (List.mem_append_left _ (List.mem_append_left _
    (List.mem_append_left _ List.mem_cons_self))), by simp, by simp⟩
  feature := by
    refine ⟨[.free p.featureName, .fixed "\n"] ++ docLines "    " p.description ++
      [.fixed "    "], ?_, by simp, fun line hline => ?_⟩
    · simp [elements, classElements]
    · simp [free_mem_docLines hline]
  scenarios q hq := by
    refine ⟨[.free q.name, .fixed "\n"] ++ docLines "        " q.remarks ++ [.fixed "        "],
      (scenario_within hq).subset ?_, by simp, fun line hline => ?_⟩
    · simp [scenarioElements]
    · simp [free_mem_docLines hline]
  arguments s hs a ha t ht := by
    refine (step_within hs).subset (List.mem_append_left _ (List.mem_append_right _ ?_))
    refine mem_commas (List.mem_map.2 ⟨a, ha, ?_⟩)
    rw [argumentElement, ht]
  headers s hs t ht v hv := by
    obtain ⟨x, rfl⟩ := Option.isSome_iff_exists.1 ((h.tables s hs t ht).1 v hv)
    exact ⟨x, rfl, (table_within hs ht).subset (markup_mem_header hv)⟩
  cells s hs t ht row hrow v hv := by
    obtain ⟨x, rfl⟩ := Option.isSome_iff_exists.1 ((h.tables s hs t ht).2 row hrow v hv)
    exact ⟨x, rfl, (table_within hs ht).subset (markup_mem_row hrow hv)⟩
  cases q hq hp row hrow v hv := by
    obtain ⟨x, rfl⟩ := Option.isSome_iff_exists.1 (h.cases q hq row hrow v hv)
    exact ⟨x, rfl, (scenario_within hq).subset (quoted_mem_cases hp hrow hv)⟩
  stubs s hs := ⟨(stub_within hs).subset (by simp [stubElements]),
    (stub_within hs).subset (by simp [stubElements])⟩

/-! ## Top theorem -/

/-- **Free text stays in its place.**  The module of a plan made of a text without carriage returns
is written in elements.  Each free text of the plan stands in a comment, a documentation string or
a literal, and each of these ends where it is meant to. -/
theorem free_text_stays_in_place {c : Catalog} {fileName text : String} {d : Gherkin.Document}
    {p : Plan} (hread : Gherkin.Document.read text = .ok d) (hreturn : '\r' ∉ text.toList)
    (hp : convert c fileName d = .ok p) :
    p.render Template.bundled = .ok (.ofList (written (elements p))) ∧ Placed p ∧
      ∀ before e behind, elements p = before ++ e :: behind →
        e.Keeps (written before) (written behind) := by
  refine ⟨Template.render_bundled p, placed_of_valued (valued_of_read hread hp), ?_⟩
  intro before e behind hsplit
  have hfits := (block_elements (oneLineTexts_of_read hread hreturn hp)).fits [] [] (.inl rfl)
    before e behind hsplit
  rw [List.nil_append, List.append_nil] at hfits
  exact keeps_of_fits hfits

/-- A feature text with quotes and backslashes where they may do harm. -/
def awkwardText : String := String.join [
  "Feature: Say \"\"\" and \\\n",
  "  Scenario: A \"quoted\" name\\\n",
  "    Given the text \"\\\" # here\n",
  "      | \"\"\" |\n"]

def awkwardFeature : Gherkin.Feature :=
  { tags := [], language := "en", keyword := "Feature", name := "Say \"\"\" and \\",
    description := "",
    children := [.scenario
      { tags := [], keyword := "Scenario", name := "A \"quoted\" name\\", description := "",
        examples := [], steps := [⟨"Given ", .kind .context, "the text \"\\\" # here",
          some [[⟨some "\"\"\""⟩]]⟩] }] }

/-- The step of `awkwardFeature`, which calls a stub. -/
def awkwardStep : Step :=
  { keyword := "Given", text := "the text \"\\\" # here", owner := selfOwner,
    method := "TheTextHere", arguments := [⟨"table1", .named "table1"⟩],
    table := some ⟨"table1", [some "\"\"\""], []⟩ }

theorem awkwardText_stays_in_place :
    ∃ p, convert [] "awkward" (some awkwardFeature) = .ok p ∧
      .comment 8 "Given the text \"\\\" # here" ∈ elements p ∧ .markup "\"\"\"" ∈ elements p ∧
      ∀ before behind, elements p = before ++ .markup "\"\"\"" :: behind →
        ∃ body, ClosedLiteral (quoteMarkup "\"\"\"").toList body (written behind) := by
  have hread : Gherkin.Document.read awkwardText = .ok (some awkwardFeature) := by decide +kernel
  have hfaults : faults [] awkwardFeature = [] := rfl
  have hc : convert [] "awkward" (some awkwardFeature) = .ok (plan [] "awkward" awkwardFeature) := by
    simp only [convert, hfaults, List.head?_nil]
  obtain ⟨-, hplaced, hkeeps⟩ := free_text_stays_in_place hread (by decide) hc
  have hsteps : (plan [] "awkward" awkwardFeature).allSteps = [awkwardStep] := by decide +kernel
  have hstep := hsteps ▸ List.mem_singleton_self awkwardStep
  obtain ⟨x, hx, hcell⟩ := hplaced.headers awkwardStep hstep _ rfl _ List.mem_cons_self
  obtain rfl := Option.some.inj hx
  exact ⟨_, hc, hplaced.steps awkwardStep hstep, hcell, fun before behind => hkeeps before _ behind⟩

end Acceptance.Plan
