import Acceptance.Proofs.Plan.Calls
import Acceptance.Proofs.Plan.DocumentOrder
import Acceptance.Proofs.Plan.Stubs
import Acceptance.Proofs.Text.TitleCase

/-!
# The running keyword

A line is matched under the kind of the last line at or before it that is primary: by the type of
its keyword, or else by the keyword itself.  A line that some definition answers is planned from
this kind, the number of data tables before it and the line; of the other lines it takes nothing
else, and nothing of the stubs.

    (occurrences steps)[i]? = some ⟨runningKind steps i, tablesBefore steps i + …, steps[i]⟩
                                                                           (getElem?_occurrences)
    resolution → l.plan c stubs o = l.plan c stubs' o                           (plan_of_resolution)
-/

namespace Acceptance.Plan

open Acceptance.Text

/-! ## Algorithm -/

/-- The kind of a primary line: that of the type of its keyword, and where the type has none, the
one whose word the keyword is, trimmed and capitalized. -/
def primaryKind? (line : Gherkin.Step) : Option StepKind :=
  match line.type with
  | .kind k => some k
  | _ => StepKind.all.find? fun k => capitalized (trim line.keyword.toList) == k.word.toList

/-- The kind of the last primary line among those up to a place, and a context where none is. -/
def runningKind (steps : List Gherkin.Step) (i : Nat) : StepKind :=
  ((steps.take (i + 1)).filterMap primaryKind?).getLast?.getD .context

/-- The number of data tables before a place. -/
def tablesBefore (steps : List Gherkin.Step) (i : Nat) : Nat :=
  (steps.take i).countP fun line => line.table.isSome

/-- The step lines of one method, with the tables of values for their references. -/
structure Body where
  examples : List Gherkin.Examples
  steps : List Gherkin.Step
  deriving Repr, DecidableEq

/-- The methods of a document as its plan has them: the last background, then the scenarios. -/
def bodies : Gherkin.Document → List Body
  | none => []
  | some f => (backgrounds f).getLast?.toList.map (fun b => ⟨[], b.steps⟩) ++
      (gatheredScenarios (bareScenarios f.children) f.children).map fun s => ⟨s.examples, s.steps⟩

/-- The steps of a plan, method by method. -/
def stepLists (p : Plan) : List (List Step) := p.background.toList ++ p.scenarios.map (·.steps)

/-- The step of a plan for the line at a place of a method. -/
def StepAt (d : Gherkin.Document) (p : Plan) (b : Body) (i : Nat) (x : Step) : Prop :=
  ∃ xs, (b, xs) ∈ (bodies d).zip p.stepLists ∧ xs[i]? = some x

/-- A step that is matched under a kind, or else stubbed under it. -/
structure Step.Under (c : Catalog) (p : Plan) (k : StepKind) (line : Gherkin.Step) (x : Step) :
    Prop where
  text : x.text = line.text
  matched : ∀ definition, c.find? k.word line.text = some definition → x.Calls definition
  stubbed : c.find? k.word line.text = none →
    ∃ stub ∈ p.stubs, stub.kind = k ∧ stub.text = line.text ∧ x.owner = selfOwner ∧
      x.method = stub.method

/-! ## Kinds -/

theorem ownKind?_eq_primaryKind? (line : Gherkin.Step) : ownKind? line = primaryKind? line := by
  have hword : kindOfWord? line.keyword =
      StepKind.all.find? fun k => capitalized (trim line.keyword.toList) == k.word.toList := by
    refine congrArg (StepKind.all.find? ·) (funext fun k => ?_)
    rw [Bool.eq_iff_iff, beq_iff_eq, beq_iff_eq]
    exact (capitalized_eq_word_iff _ k).symm
  unfold ownKind? kindOf? primaryKind?
  cases line.type with
  | kind k => rfl
  | conjunction => exact hword
  | unknown => exact hword

/-- One line on: the kind that runs is that of the line, or the one that ran before. -/
theorem getElem?_occurrencesFrom (current : StepKind) (n : Nat) (steps : List Gherkin.Step)
    (i : Nat) : (occurrencesFrom current n steps)[i]? = steps[i]?.map fun line =>
      ⟨((steps.take (i + 1)).filterMap primaryKind?).getLast?.getD current,
        n + tablesBefore steps (i + 1), line⟩ := by
  induction steps generalizing current n i with
  | nil => rfl
  | cons line steps ih =>
    rw [occurrencesFrom, ownKind?_eq_primaryKind?]
    have htables : ∀ j, tablesBefore (line :: steps) (j + 1) =
        (if line.table.isSome then 1 else 0) + tablesBefore steps j := by
      intro j
      rw [tablesBefore, List.take_succ_cons, List.countP_cons, Nat.add_comm]
      rfl
    have hlast : ∀ j, ((List.take (j + 1) (line :: steps)).filterMap primaryKind?).getLast?.getD
        current = ((steps.take j).filterMap primaryKind?).getLast?.getD
          ((primaryKind? line).getD current) := by
      intro j
      rw [List.take_succ_cons, List.filterMap_cons]
      cases primaryKind? line with
      | none => rfl
      | some k => rw [List.getLast?_cons, Option.getD_some, Option.getD_some]
    cases i with
    | zero =>
      rw [List.getElem?_cons_zero, List.getElem?_cons_zero, Option.map_some, hlast, htables]
      congr 2
      split <;> rfl
    | succ i =>
      rw [List.getElem?_cons_succ, List.getElem?_cons_succ, ih, hlast, htables]
      congr 1
      funext l
      congr 1
      split <;> omega

/-- **The line at a place**, with the kind that runs there and the number of its table. -/
theorem getElem?_occurrences (steps : List Gherkin.Step) (i : Nat) :
    (occurrences steps)[i]? = steps[i]?.map fun line =>
      ⟨runningKind steps i, tablesBefore steps (i + 1), line⟩ := by
  rw [occurrences, getElem?_occurrencesFrom]
  simp only [Nat.zero_add]
  rfl

theorem length_occurrences (steps : List Gherkin.Step) :
    (occurrences steps).length = steps.length := by
  rw [occurrences, ← List.length_map (f := (·.line)), lines_occurrencesFrom]

theorem tablesBefore_succ {steps : List Gherkin.Step} {i : Nat} {line : Gherkin.Step}
    (h : steps[i]? = some line) :
    tablesBefore steps (i + 1) = tablesBefore steps i + if line.table.isSome then 1 else 0 := by
  rw [tablesBefore, List.take_add_one, h, Option.toList_some, List.countP_append,
    List.countP_singleton]
  rfl

/-! ## Steps of a plan -/

section
variable {c : Catalog} {fileName : String} {f : Gherkin.Feature}

/-- The steps of a plan are those of the lines of the document, method by method. -/
theorem forall₂_stepLists (c : Catalog) (fileName : String) (f : Gherkin.Feature) :
    List.Forall₂ (fun b xs => xs = (occurrences b.steps).map fun l =>
        l.plan c (stubsOf c f) (outlineOf b.examples))
      (bodies (some f)) (plan c fileName f).stepLists := by
  refine List.rel_append ?_ ?_
  · have hbackground : (plan c fileName f).background = (backgrounds f).getLast?.map fun b =>
        (occurrences b.steps).map fun l => l.plan c (stubsOf c f) [] := rfl
    rw [hbackground, Option.toList_map, List.forall₂_map_left_iff, List.forall₂_map_right_iff,
      List.forall₂_same]
    intro b _
    rfl
  · rw [List.forall₂_map_left_iff, List.forall₂_map_right_iff]
    refine (scenarios_plan c fileName f).imp ?_
    rintro s q ⟨method, rfl⟩
    rfl

theorem mem_planLines_of_mem_bodies {b : Body} {l : Occurrence} (hb : b ∈ bodies (some f))
    (hl : l ∈ occurrences b.steps) : ⟨outlineOf b.examples, l⟩ ∈ planLines f := by
  rcases List.mem_append.1 hb with hb | hb
  · obtain ⟨background, hlast, rfl⟩ := List.mem_map.1 hb
    refine List.mem_append_left _ ?_
    rw [Option.mem_toList] at hlast
    rw [hlast]
    exact List.mem_map.2 ⟨l, hl, rfl⟩
  · obtain ⟨s, hs, rfl⟩ := List.mem_map.1 hb
    refine List.mem_append_right _ (List.mem_flatMap.2 ⟨s, hs, ?_⟩)
    exact List.mem_map.2 ⟨l, hl, rfl⟩

theorem mem_allOccurrences_of_mem_bodies {b : Body} {l : Occurrence} (hb : b ∈ bodies (some f))
    (hl : l ∈ occurrences b.steps) : l ∈ allOccurrences f := by
  rcases List.mem_append.1 hb with hb | hb
  · obtain ⟨background, hlast, rfl⟩ := List.mem_map.1 hb
    rw [Option.mem_toList] at hlast
    exact mem_allOccurrences.2 (.inl ⟨background, List.mem_of_getLast? hlast, hl⟩)
  · obtain ⟨s, hs, rfl⟩ := List.mem_map.1 hb
    exact mem_allOccurrences.2 (.inr ⟨s, (perm_gathered f.children).subset hs, hl⟩)

/-- A step at a place is that of the line there, under the kind that runs there. -/
theorem exists_line_of_stepAt {p : Plan} (h : convert c fileName (some f) = .ok p) {b : Body}
    {i : Nat} {x : Step} (hx : StepAt (some f) p b i x) :
    b ∈ bodies (some f) ∧ ∃ line, b.steps[i]? = some line ∧
      x = Occurrence.plan c (stubsOf c f) (outlineOf b.examples)
        ⟨runningKind b.steps i, tablesBefore b.steps (i + 1), line⟩ := by
  obtain ⟨xs, hzip, hstep⟩ := hx
  rw [(convert_some_eq_ok_iff.1 h).2] at hzip
  have heq := List.forall₂_zip (forall₂_stepLists c fileName f) hzip
  rw [heq, List.getElem?_map, getElem?_occurrences, Option.map_map,
    Option.map_eq_some_iff] at hstep
  obtain ⟨line, hline, hplan⟩ := hstep
  exact ⟨(List.of_mem_zip hzip).1, line, hline, hplan.symm⟩

/-- A line that a definition answers is planned without regard to the stubs. -/
theorem plan_of_resolution {stubs stubs' : List Stub} {o : Outline} {l : Occurrence}
    (h : (c.find? l.kind.word l.line.text).isSome = true) :
    l.plan c stubs o = l.plan c stubs' o := by
  obtain ⟨definition, hfind⟩ := Option.isSome_iff_exists.1 h
  unfold Occurrence.plan
  rw [resolution?_of_find? hfind]

theorem under_of_plan {p : Plan} (h : convert c fileName (some f) = .ok p) {b : Body}
    {l : Occurrence} (hb : b ∈ bodies (some f)) (hl : l ∈ occurrences b.steps) :
    (l.plan c (stubsOf c f) (outlineOf b.examples)).Under c p l.kind l.line := by
  have hline := mem_planLines_of_mem_bodies hb hl
  refine ⟨(PlanLine.step_text_table c _ ⟨outlineOf b.examples, l⟩).1, ?_, ?_⟩
  · intro definition hfind
    exact step_calls (x := ⟨outlineOf b.examples, l⟩) hfind (line_fault_of_convert h hline)
  · intro hnone
    have hun : l.isUnmatched c = true := by
      rw [Occurrence.isUnmatched, hnone]
      rfl
    obtain ⟨stub, hstub, hcalls⟩ :=
      planStub_callsStub (x := ⟨outlineOf b.examples, l⟩) (stubsOf_collect c (allOccurrences f))
        (mem_allOccurrences_of_mem_bodies hb hl) hun
    have hstep : l.plan c (stubsOf c f) (outlineOf b.examples) =
        l.planStub (stubsOf c f) (outlineOf b.examples) :=
      step_of_unmatched (stubsOf c f) (x := ⟨outlineOf b.examples, l⟩) hun
    rw [hstep, (convert_some_eq_ok_iff.1 h).2]
    have hkey := hcalls.key
    exact ⟨stub, hstub, congrArg Prod.fst hkey, congrArg Prod.snd hkey, hcalls.owner,
      hcalls.method⟩

end

/-- A step that a definition answers is the same for the same line under the same kind, behind as
many tables and with the same tables of values, whatever else the two documents hold. -/
theorem stepAt_unique {c : Catalog} {fileName fileName' : String} {f f' : Gherkin.Feature}
    {p p' : Plan} {b b' : Body} {i i' : Nat} {x x' : Step} {line : Gherkin.Step}
    (h : convert c fileName (some f) = .ok p) (h' : convert c fileName' (some f') = .ok p')
    (hx : StepAt (some f) p b i x) (hx' : StepAt (some f') p' b' i' x')
    (hline : b.steps[i]? = some line) (hline' : b'.steps[i']? = some line)
    (hexamples : b'.examples = b.examples)
    (hkind : runningKind b'.steps i' = runningKind b.steps i)
    (htables : tablesBefore b'.steps i' = tablesBefore b.steps i)
    (hfind : (c.find? (runningKind b.steps i).word line.text).isSome = true) : x' = x := by
  obtain ⟨-, l, hl, hplan⟩ := exists_line_of_stepAt h hx
  obtain ⟨-, l', hl', hplan'⟩ := exists_line_of_stepAt h' hx'
  obtain rfl : line = l := Option.some.inj (hline.symm.trans hl)
  obtain rfl : line = l' := Option.some.inj (hline'.symm.trans hl')
  rw [hplan, hplan', hexamples, hkind, tablesBefore_succ hline, tablesBefore_succ hline', htables]
  exact plan_of_resolution hfind

/-! ## Top theorem -/

/-- **Steps run under the last primary keyword.**  Every line of a list of steps is tried under the
kind of the last primary line at or before it.  The steps of a plan are those of its document,
each matched, or else stubbed, under that kind; and where a definition answers it, the step of any
other document that has the line under the same kind, behind as many data tables and with the same
tables of values, is the same step. -/
theorem steps_run_under_keyword {c : Catalog} {fileName : String} {d : Gherkin.Document} {p : Plan}
    (h : convert c fileName d = .ok p) :
    (∀ (steps : List Gherkin.Step) (i : Nat), (occurrences steps)[i]? = steps[i]?.map fun line =>
      ⟨runningKind steps i, tablesBefore steps (i + 1), line⟩) ∧
    List.Forall₂ (fun b xs => xs.length = b.steps.length) (bodies d) p.stepLists ∧
    ∀ b i x, StepAt d p b i x → ∃ line, b.steps[i]? = some line ∧
      x.Under c p (runningKind b.steps i) line ∧
      ∀ fileName' d' p', convert c fileName' d' = .ok p' → ∀ b' i' x', StepAt d' p' b' i' x' →
        b'.steps[i']? = some line → b'.examples = b.examples →
        runningKind b'.steps i' = runningKind b.steps i →
        tablesBefore b'.steps i' = tablesBefore b.steps i →
        (c.find? (runningKind b.steps i).word line.text).isSome = true → x' = x := by
  refine ⟨getElem?_occurrences, ?_⟩
  cases d with
  | none =>
    obtain rfl := Except.ok.inj h
    refine ⟨.nil, ?_⟩
    rintro b i x ⟨xs, hzip, -⟩
    cases hzip
  | some f =>
    refine ⟨?_, ?_⟩
    · rw [(convert_some_eq_ok_iff.1 h).2]
      refine (forall₂_stepLists c fileName f).imp ?_
      rintro b xs rfl
      rw [List.length_map, length_occurrences]
    · intro b i x hx
      obtain ⟨hb, line, hline, hplan⟩ := exists_line_of_stepAt h hx
      have hmem : (⟨runningKind b.steps i, tablesBefore b.steps (i + 1), line⟩ : Occurrence) ∈
          occurrences b.steps := by
        refine List.mem_of_getElem? (i := i) ?_
        rw [getElem?_occurrences, hline, Option.map_some]
      refine ⟨line, hline, hplan ▸ under_of_plan h hb hmem, ?_⟩
      intro fileName' d' p' h' b' i' x' hx' hline' hexamples hkind htables hfind
      cases d' with
      | none =>
        obtain ⟨xs, hzip, -⟩ := hx'
        cases hzip
      | some f' => exact stepAt_unique h h' hx hx' hline hline' hexamples hkind htables hfind

/-- A definition for the steps of `closeLine`. -/
def clickDefinition : StepDefinition :=
  { kind := .action, pattern := "I click \x7bbutton\x7d", owner := "Buttons", module := "steps",
    method := "click", parameters := [⟨"str", "button"⟩] }

/-- A line that is not primary. -/
def closeLine : Gherkin.Step := ⟨"And ", .conjunction, "I click Close", none⟩

def closeFeature (before : List Gherkin.Step) (others : List Gherkin.Child) : Gherkin.Feature :=
  { tags := [], language := "en", keyword := "Feature", name := "Close", description := "",
    children := .scenario
      { tags := [], keyword := "Scenario", name := "Close", description := "", examples := [],
        steps := before ++ [closeLine] } :: others }

/-- A line whose keyword has a type. -/
def typedLines : List Gherkin.Step := [⟨"When ", .kind .action, "I click Save", none⟩]

/-- Lines of which the last primary one is so by its keyword alone. -/
def wordedLines : List Gherkin.Step :=
  [⟨"Given ", .kind .context, "a dialog", none⟩, ⟨" wHEN ", .unknown, "I wait", none⟩,
    ⟨"But ", .conjunction, "I wait", none⟩]

theorem closeLine_same_step : ∃ p p' x x',
    convert [clickDefinition] "close" (some (closeFeature typedLines [])) = .ok p ∧
    convert [clickDefinition] "other" (some (closeFeature wordedLines
      [.background ⟨"Background", "", "", [⟨"Then ", .kind .outcome, "all", none⟩]⟩])) = .ok p' ∧
    StepAt (some (closeFeature typedLines [])) p ⟨[], typedLines ++ [closeLine]⟩ 1 x ∧
    StepAt (some (closeFeature wordedLines
      [.background ⟨"Background", "", "", [⟨"Then ", .kind .outcome, "all", none⟩]⟩])) p'
      ⟨[], wordedLines ++ [closeLine]⟩ 3 x' ∧
    x.Calls clickDefinition ∧ x' = x := by
  generalize hother : closeFeature wordedLines
    [.background ⟨"Background", "", "", [⟨"Then ", .kind .outcome, "all", none⟩]⟩] = other
  have hc : convert [clickDefinition] "close" (some (closeFeature typedLines [])) =
      .ok (plan [clickDefinition] "close" (closeFeature typedLines [])) :=
    convert_some_eq_ok_iff.2 ⟨by decide +kernel, rfl⟩
  have hc' : convert [clickDefinition] "other" (some other) =
      .ok (plan [clickDefinition] "other" other) :=
    convert_some_eq_ok_iff.2 ⟨by subst hother; decide +kernel, rfl⟩
  have hfind : Catalog.find? [clickDefinition] StepKind.action.word closeLine.text =
      some clickDefinition := by
    have h₁ : clickDefinition.answersTo StepKind.action.word = true := by decide +kernel
    have h₂ : clickDefinition.isExact closeLine.text = false := by decide +kernel
    have h₃ : clickDefinition.isTemplated closeLine.text = true := by decide +kernel
    simp [Catalog.find?, Catalog.candidates, h₁, h₂, h₃]
  have hkind : runningKind (typedLines ++ [closeLine]) 1 = .action := by decide +kernel
  have hkind' : runningKind (wordedLines ++ [closeLine]) 3 = .action := by decide +kernel
  obtain ⟨-, hlists, hsteps⟩ := steps_run_under_keyword hc
  obtain ⟨-, hlists', -⟩ := steps_run_under_keyword hc'
  have hbodies : bodies (some (closeFeature typedLines [])) =
      [⟨[], typedLines ++ [closeLine]⟩] := rfl
  have hbodies' : bodies (some other) =
      [⟨[], [⟨"Then ", .kind .outcome, "all", none⟩]⟩, ⟨[], wordedLines ++ [closeLine]⟩] := by
    subst hother
    rfl
  rw [hbodies] at hlists
  rw [hbodies'] at hlists'
  obtain ⟨xs, _, hxs, -, hstepLists⟩ := List.forall₂_cons_left_iff.1 hlists
  obtain ⟨_, _, -, hrest, hstepLists'⟩ := List.forall₂_cons_left_iff.1 hlists'
  obtain ⟨xs', _, hxs', -, rfl⟩ := List.forall₂_cons_left_iff.1 hrest
  have hx := List.getElem?_eq_getElem (show 1 < xs.length from hxs ▸ by decide)
  have hx' := List.getElem?_eq_getElem (show 3 < xs'.length from hxs' ▸ by decide)
  have hat : StepAt (some (closeFeature typedLines [])) _ ⟨[], typedLines ++ [closeLine]⟩ 1 _ :=
    ⟨xs, by rw [hbodies, hstepLists]; exact List.mem_cons_self, hx⟩
  have hat' : StepAt (some other) _ ⟨[], wordedLines ++ [closeLine]⟩ 3 _ :=
    ⟨xs', by rw [hbodies', hstepLists']; exact List.mem_cons_of_mem _ List.mem_cons_self, hx'⟩
  obtain ⟨line, hline, hunder, hsame⟩ := hsteps _ _ _ hat
  obtain rfl : closeLine = line := Option.some.inj hline
  rw [hkind] at hunder hsame
  refine ⟨_, _, _, _, hc, hc', hat, hat', hunder.matched _ hfind, ?_⟩
  exact hsame _ _ _ hc' _ _ _ hat' rfl rfl hkind' (by decide) (by rw [hfind]; rfl)

end Acceptance.Plan
