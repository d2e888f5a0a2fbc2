import Acceptance.Proofs.Gherkin.Regular
import Acceptance.Proofs.Plan.Scenarios
import Acceptance.Proofs.Source.Literals
import Acceptance.Proofs.Text.Split

/-!
# The texts of a plan

What a plan writes into comments goes on one line: step keywords and step texts are parts of a line
of the feature text, rule names too, and a description is taken line by line.  Every cell of a table has a text.

    Document.read text = .ok d → '\r' ∉ text.toList → convert c fileName d = .ok p →
      p.OneLineTexts                                                           (oneLineTexts_of_read)
    Document.read text = .ok d → convert c fileName d = .ok p → p.Valued             (valued_of_read)
-/

namespace Acceptance.Plan

open Acceptance.Text Acceptance.Source

/-! ## Algorithm -/

/-- A plan whose step texts, rule names and lines of rule descriptions go on one line each. -/
structure OneLineTexts (p : Plan) : Prop where
  steps : ∀ s ∈ p.allSteps, OnOneLine s.keyword.toList ∧ OnOneLine s.text.toList
  ruleNames : ∀ r ∈ p.rules, OnOneLine (textOrNone r.name).toList
  ruleLines : ∀ r ∈ p.rules, ∀ line ∈ splitAt '\n' r.description.toList, OnOneLine line

/-- A plan in which every cell of a table and every value for a parameter is a text. -/
structure Valued (p : Plan) : Prop where
  tables : ∀ s ∈ p.allSteps, ∀ t, s.table = some t → (∀ v ∈ t.headers, v.isSome = true) ∧
    ∀ row ∈ t.rows, ∀ v ∈ row, v.isSome = true
  cases : ∀ q ∈ p.scenarios, ∀ row ∈ q.cases, ∀ v ∈ row, v.isSome = true

/-! ## Lines -/

theorem mem_linesFrom {line cs : List Char} (hline : ∀ c ∈ line, isLineEnd c = false) :
    ∀ l ∈ linesFrom line cs, ∀ c ∈ l, isLineEnd c = false := by
  have hreverse : ∀ {line : List Char}, (∀ c ∈ line, isLineEnd c = false) →
      ∀ c ∈ line.reverse, isLineEnd c = false := fun h c hc => h c (List.mem_reverse.1 hc)
  fun_induction linesFrom line cs with
  | case1 line hempty => simp
  | case2 line hempty =>
    intro l hl
    obtain rfl := List.mem_singleton.1 hl
    exact hreverse hline
  | case3 line rest ih =>
    intro l hl
    rcases List.mem_cons.1 hl with rfl | hl
    · exact hreverse hline
    · exact ih (by simp) l hl
  | case4 line c rest _ hc ih =>
    intro l hl
    rcases List.mem_cons.1 hl with rfl | hl
    · exact hreverse hline
    · exact ih (by simp) l hl
  | case5 line c rest _ hc ih =>
    refine ih fun d hd => ?_
    rcases List.mem_cons.1 hd with rfl | hd
    · exact Bool.eq_false_iff.2 hc
    · exact hline d hd

theorem onOneLine_of_lines {s line : String} (h : line ∈ lines s) : OnOneLine line.toList := by
  obtain ⟨cs, hcs, rfl⟩ := List.mem_map.1 h
  intro c hc
  have hend := mem_linesFrom (by simp) cs hcs c (by simpa using hc)
  constructor <;> (rintro rfl; cases hend)

theorem mem_trim {c : Char} {cs : List Char} (h : c ∈ trim cs) : c ∈ cs :=
  (List.dropWhile_suffix isBlank).subset ((Gherkin.dropEndWhile_isPrefix isBlank _).subset h)

theorem onOneLine_of_descriptionLines {description line : String}
    (h : line ∈ descriptionLines description) : OnOneLine line.toList := by
  obtain ⟨l, hl, rfl⟩ := List.mem_map.1 (List.mem_filter.1 h).1
  intro c hc
  exact onOneLine_of_lines hl c (mem_trim (by simpa [strip] using hc))

/-- The description of a rule, split at its line feeds, has the lines that it was joined from. -/
theorem onOneLine_of_join {ls : List String} (h : ∀ l ∈ ls, OnOneLine l.toList) :
    ∀ piece ∈ splitAt '\n' (join "\n" ls).toList, OnOneLine piece := by
  intro piece hp
  cases ls with
  | nil =>
    have : piece = [] := by simpa [join, splitAt] using hp
    simp [this, OnOneLine]
  | cons l ls =>
    have hjoin : (join "\n" (l :: ls)).toList =
        ['\n'].intercalate ((l :: ls).map String.toList) := by
      rw [join, String.toList_intercalate]
      simp
    rw [hjoin, splitAt_intercalate (by simp)] at hp
    · obtain ⟨l', hl', rfl⟩ := List.mem_map.1 hp
      exact h l' hl'
    · intro piece hpiece hmem
      obtain ⟨l', hl', rfl⟩ := List.mem_map.1 hpiece
      exact (h l' hl' _ hmem).1 rfl

/-! ## Steps -/

theorem mem_of_mem_occurrencesFrom {kind : StepKind} {n : Nat} {steps : List Gherkin.Step}
    {l : Occurrence} (h : l ∈ occurrencesFrom kind n steps) : l.line ∈ steps := by
  induction steps generalizing kind n with
  | nil => cases h
  | cons line rest ih =>
    rcases List.mem_cons.1 h with rfl | h
    · exact List.mem_cons_self
    · exact List.mem_cons_of_mem _ (ih h)

section
variable {source : List Char} {f : Gherkin.Feature}

theorem regular_of_mem_backgrounds (hf : f.Regular source) {b : Gherkin.Background}
    (h : b ∈ backgrounds f) : b.Regular source := by
  obtain ⟨child, hc, hb⟩ := List.mem_filterMap.1 h
  have hchild := hf.children child hc
  cases child with
  | background b' => exact Option.some.inj hb ▸ hchild
  | scenario s => cases hb
  | rule r => cases hb

theorem regular_of_mem_gathered (hf : f.Regular source) {s : Gherkin.Scenario}
    (h : s ∈ gatheredScenarios (bareScenarios f.children) f.children) : s.Regular source := by
  rcases mem_gatheredScenarios h with h | h
  · exact hf.children _ (mem_bareScenarios.1 h)
  · obtain ⟨r, hr, hs⟩ := mem_ruledScenarios.1 h
    exact (hf.children _ hr).children _ hs

/-- The lines behind the steps of a plan are regular. -/
theorem regular_of_mem_planLines (hf : f.Regular source) {x : PlanLine} (h : x ∈ planLines f) :
    x.line.line.Regular source := by
  rcases List.mem_append.1 h with h | h
  · cases hb : (backgrounds f).getLast? with
    | none => simp [hb] at h
    | some b =>
      simp only [hb, Option.map_some, Option.getD_some] at h
      obtain ⟨l, hl, rfl⟩ := List.mem_map.1 h
      exact regular_of_mem_backgrounds hf (List.mem_of_getLast? hb) _
        (mem_of_mem_occurrencesFrom hl)
  · obtain ⟨s, hs, hx⟩ := List.mem_flatMap.1 h
    obtain ⟨l, hl, rfl⟩ := List.mem_map.1 hx
    exact (regular_of_mem_gathered hf hs).steps _ (mem_of_mem_occurrencesFrom hl)

end

theorem PlanLine.step_keyword (c : Catalog) (stubs : List Stub) (x : PlanLine) :
    (x.step c stubs).keyword = x.line.keyword := by
  unfold PlanLine.step Occurrence.plan
  split <;> rfl

/-! ## Rules -/

/-- A planned rule with the name and the description of a rule among the children. -/
theorem rule_of_mem_planChildren {c : Catalog} {stubs : List Stub} {taken : List String}
    {children : List Gherkin.Child} {r : Rule} (h : .rule r ∈ planChildren c stubs taken children) :
    ∃ g, .rule g ∈ children ∧ r.name = g.name ∧
      r.description = join "\n" (descriptionLines g.description) := by
  induction children generalizing taken with
  | nil => cases h
  | cons child rest ih =>
    cases child with
    | background b =>
      obtain ⟨g, hg, h⟩ := ih h
      exact ⟨g, List.mem_cons_of_mem _ hg, h⟩
    | scenario s =>
      obtain ⟨g, hg, h⟩ := ih ((List.mem_cons.1 h).resolve_left nofun)
      exact ⟨g, List.mem_cons_of_mem _ hg, h⟩
    | rule g =>
      rcases List.mem_cons.1 h with h | h
      · obtain rfl := Planned.rule.inj h
        exact ⟨g, List.mem_cons_self, rfl, rfl⟩
      · obtain ⟨g, hg, h⟩ := ih h
        exact ⟨g, List.mem_cons_of_mem _ hg, h⟩

theorem mem_gather {bare : List Scenario} {planned : List Planned} {r : Rule}
    (h : r ∈ gather bare planned) : .rule r ∈ planned ∨ r = ⟨some defaultRuleName, "", bare⟩ := by
  induction planned with
  | nil => cases h
  | cons x rest ih =>
    cases x with
    | rule r' =>
      rcases List.mem_cons.1 h with rfl | h
      · exact .inl List.mem_cons_self
      · exact (ih h).imp_left (List.mem_cons_of_mem _)
    | bare s =>
      rcases List.mem_cons.1 h with rfl | h
      · exact .inr rfl
      · obtain ⟨y, hy, hr⟩ := List.mem_filterMap.1 h
        cases y with
        | rule r' => exact .inl (List.mem_cons_of_mem _ (Option.some.inj hr ▸ hy))
        | bare s => cases hr

/-! ## Top theorems -/

theorem onOneLine_of_inLine {source : List Char} {s : String} (hreturn : '\r' ∉ source)
    (h : Gherkin.InLine source s) : OnOneLine s.toList :=
  fun c hc => ⟨(h c hc).2, fun he => hreturn (he ▸ (h c hc).1)⟩

/-- **The texts of a plan go on one line.** -/
theorem oneLineTexts_of_read {c : Catalog} {fileName text : String} {d : Gherkin.Document}
    {p : Plan} (hread : Gherkin.Document.read text = .ok d) (hreturn : '\r' ∉ text.toList)
    (hp : convert c fileName d = .ok p) : p.OneLineTexts := by
  cases d with
  | none =>
    obtain rfl := Except.ok.inj hp
    exact ⟨nofun, nofun, nofun⟩
  | some f =>
    have hf := Gherkin.Document.read_regular hread
    obtain rfl := (convert_some_eq_ok_iff.1 hp).2
    have hrule : ∀ r ∈ (plan c fileName f).rules, (∃ n, r.name = some n ∧ OnOneLine n.toList) ∧
        ∀ line ∈ splitAt '\n' r.description.toList, OnOneLine line := by
      intro r hr
      rcases mem_gather hr with hr | rfl
      · obtain ⟨g, hg, hname, hdescription⟩ := rule_of_mem_planChildren hr
        obtain ⟨n, hn, hline⟩ := (hf.children _ hg).name
        refine ⟨⟨n, hname.trans hn, onOneLine_of_inLine hreturn hline⟩, ?_⟩
        rw [hdescription]
        exact onOneLine_of_join fun line hl => onOneLine_of_descriptionLines hl
      · refine ⟨⟨_, rfl, by simp [OnOneLine, defaultRuleName]⟩, ?_⟩
        simp [splitAt, OnOneLine]
    refine ⟨fun s hs => ?_, fun r hr => ?_, fun r hr => (hrule r hr).2⟩
    · rw [allSteps_plan] at hs
      obtain ⟨x, hx, rfl⟩ := List.mem_map.1 hs
      have hx := regular_of_mem_planLines hf hx
      rw [x.step_keyword, (x.step_text_table _ _).1]
      exact ⟨onOneLine_of_inLine hreturn hx.keyword, onOneLine_of_inLine hreturn hx.text⟩
    · obtain ⟨n, hn, hline⟩ := (hrule r hr).1
      rwa [hn]

theorem isSome_of_mem_cellsOf {row : Gherkin.Row} (h : ∀ cell ∈ row, cell.value.isSome = true) :
    ∀ v ∈ cellsOf row, v.isSome = true := by
  intro v hv
  obtain ⟨cell, hcell, rfl⟩ := List.mem_map.1 hv
  exact h cell hcell

theorem valued_table {name : String} {rows : List Gherkin.Row} (h : Gherkin.RegularRows rows) :
    (∀ v ∈ (Table.of name rows).headers, v.isSome = true) ∧
      ∀ row ∈ (Table.of name rows).rows, ∀ v ∈ row, v.isSome = true := by
  cases rows with
  | nil => exact ⟨nofun, nofun⟩
  | cons top rows =>
    refine ⟨isSome_of_mem_cellsOf (h.valued top List.mem_cons_self), fun row hrow => ?_⟩
    obtain ⟨cells, hcells, rfl⟩ := List.mem_map.1 hrow
    exact isSome_of_mem_cellsOf (h.valued cells (List.mem_cons_of_mem _ hcells))

theorem valued_caseRows {examples : List Gherkin.Examples} (h : ∀ e ∈ examples, e.Regular) :
    ∀ row ∈ caseRows examples, ∀ v ∈ row, v.isSome = true := by
  intro row hrow
  obtain ⟨e, he, hrow⟩ := List.mem_flatMap.1 hrow
  obtain ⟨cells, hcells, rfl⟩ := List.mem_map.1 hrow
  exact isSome_of_mem_cellsOf
    ((h e (List.mem_filter.1 he).1).rows.valued cells (List.mem_append_right _ hcells))

/-- **The cells of a plan have texts.** -/
theorem valued_of_read {c : Catalog} {fileName text : String} {d : Gherkin.Document} {p : Plan}
    (hread : Gherkin.Document.read text = .ok d) (hp : convert c fileName d = .ok p) : p.Valued := by
  cases d with
  | none =>
    obtain rfl := Except.ok.inj hp
    exact ⟨nofun, nofun⟩
  | some f =>
    have hf := Gherkin.Document.read_regular hread
    obtain rfl := (convert_some_eq_ok_iff.1 hp).2
    refine ⟨fun s hs t ht => ?_, fun q hq => ?_⟩
    · rw [allSteps_plan] at hs
      obtain ⟨x, hx, rfl⟩ := List.mem_map.1 hs
      rw [(x.step_text_table _ _).2] at ht
      obtain ⟨rows, hrows, rfl⟩ := Option.map_eq_some_iff.1 ht
      exact valued_table ((regular_of_mem_planLines hf hx).table rows hrows)
    · obtain ⟨s, hs, method, rfl⟩ := exists_scenario_of_mem hq
      exact valued_caseRows (regular_of_mem_gathered hf hs).examples

end Acceptance.Plan
