import Acceptance.Proofs.Plan.Attributes
import Acceptance.Proofs.Plan.DocumentOrder
import Acceptance.Proofs.Plan.FirstFault
import Acceptance.Proofs.Plan.MoreDefinitions

/-!
# What a test module needs

A test module imports the modules that hold the base class and the step classes, and every test
makes an object of each step class.  Both lists keep the first of equal names: the step classes in
the order in which the lines of the document are planned, the modules behind those of the tags.

    distinct ss = ss.eraseDups                                               (distinct_eq)
    tagFault? tag = none → (TagModules tag ms ↔ ms = taggedModules [tag])    (tagModules_iff)
    one background at most → (convertedLines d).Perm (documentLines d)      (perm_convertedLines)
    convert c fileName d = .ok p → p.Needs c d                               (needs_of_convert)
-/

namespace Acceptance.Plan

open Acceptance.Text

/-! ## Algorithm -/

/-- The tags of the feature of a document. -/
def tagsOf (d : Gherkin.Document) : List String := (d.map (·.tags)).getD []

/-- The modules that a tag asks for: the module to use, or the one that a base class is from. -/
inductive TagModules : String → List String → Prop
  | use (module : String) : TagModules ("@using:" ++ module) [module]
  | base (module name : String) : '.' ∉ name.toList →
      TagModules ("@baseclass:" ++ (module ++ "." ++ name)) [module]
  | ownBase (name : String) : '.' ∉ name.toList → TagModules ("@baseclass:" ++ name) []
  | other (tag : String) : (∀ value, tag ≠ "@using:" ++ value) →
      (∀ value, tag ≠ "@baseclass:" ++ value) → TagModules tag []

/-- The beginning of a tag that gives a directive. -/
def Directive.start : Directive → String
  | .package _ => "@namespace:"
  | .baseClass _ => "@baseclass:"
  | .importModule _ => "@using:"

/-- The lines of a document as they are planned: those of its backgrounds, then those of its
scenarios as they stand. -/
def convertedLines (d : Gherkin.Document) : List PlanLine :=
  (backgroundsOf (childrenOf d)).flatMap backgroundLines ++
    (scenariosOf (childrenOf d)).flatMap scenarioLines

/-- The definition that answers a line. -/
def PlanLine.definition? (c : Catalog) (x : PlanLine) : Option StepDefinition :=
  c.find? x.line.kind.word x.line.line.text

/-- The definitions that answer lines, line by line. -/
def answers (c : Catalog) (xs : List PlanLine) : List StepDefinition :=
  xs.filterMap (PlanLine.definition? c)

/-- A step of a plan with the definition that answers its line. -/
def Answered (c : Catalog) (d : Gherkin.Document) (p : Plan) (s : Step)
    (definition : StepDefinition) : Prop :=
  ∃ x, (x, s) ∈ (documentLines d).zip p.allSteps ∧ x.definition? c = some definition

/-- A plan that has just what the tags and the answered lines of a document ask for. -/
structure Needs (p : Plan) (c : Catalog) (d : Gherkin.Document) : Prop where
  classes : p.classes = ((answers c (convertedLines d)).map (·.owner)).eraseDups
  imports : ∃ tagged, List.Forall₂ TagModules (tagsOf d) tagged ∧
    p.imports = (tagged.flatten ++
      ((answers c (convertedLines d)).map (·.module)).filter (· ≠ "")).eraseDups
  classesOnce : p.classes.Nodup
  importsOnce : p.imports.Nodup
  /-- In a document that is read, lines are planned in the order of the steps. -/
  inOrder : (∀ f, d = some f → f.Shaped) → convertedLines d = documentLines d
  /-- A call finds its object made and its module imported. -/
  provided : ∀ s definition, Answered c d p s definition →
    s.owner = definition.owner ∧ s.owner ∈ p.classes ∧
      (definition.module ≠ "" → definition.module ∈ p.imports)
  classesAsked : (backgroundsOf (childrenOf d)).length ≤ 1 →
    ∀ owner ∈ p.classes, ∃ s definition, Answered c d p s definition ∧ s.owner = owner
  importsAsked : (backgroundsOf (childrenOf d)).length ≤ 1 →
    ∀ module ∈ p.imports, (∃ tag ∈ tagsOf d, TagModules tag [module]) ∨
      ∃ s definition, Answered c d p s definition ∧ definition.module = module

/-! ## First occurrences -/

theorem distinct_eq (ss : List String) : distinct ss = ss.eraseDups := by
  induction ss with
  | nil => rfl
  | cons s ss ih =>
    rw [distinct, ih, List.eraseDups_cons, eraseDups_filter]
    rfl

/-! ## Dotted names -/

theorem dottedParts_join {names : List String} (h : names ≠ []) :
    dottedParts (join "." names) = names.flatMap dottedParts := by
  have hlist : (join "." names).toList = ['.'].intercalate (names.map String.toList) := by
    simp [join, String.toList_intercalate]
  rw [dottedParts, hlist, splitAt_intercalate_flatMap '.' (by simpa using h), List.flatMap_map,
    List.map_flatMap]
  rfl

theorem join_dottedParts (s : String) : join "." (dottedParts s) = s := by
  rw [← String.toList_inj]
  simp [join, dottedParts, String.toList_intercalate, Function.comp_def, intercalate_splitAt]

theorem dottedParts_append (module name : String) :
    dottedParts (module ++ "." ++ name) = dottedParts module ++ dottedParts name := by
  have hjoin := dottedParts_join (List.cons_ne_nil module [name])
  rwa [List.flatMap_cons, List.flatMap_singleton] at hjoin

theorem dottedParts_of_not_mem {s : String} (h : '.' ∉ s.toList) : dottedParts s = [s] := by
  rw [dottedParts, splitAt_of_not_mem h, List.map_singleton, String.ofList_toList]

theorem ne_empty_of_isDottedName {value word : String} (h : isDottedName value = true)
    (hword : word ∈ dottedParts value) : word ≠ "" := by
  obtain ⟨piece, hpiece, rfl⟩ := List.mem_map.1 hword
  exact fun he => (piece_of_isDottedName h hpiece).1 (by simpa using congrArg String.toList he)

theorem splitClass_of_not_mem {name : String} (h : '.' ∉ name.toList) :
    splitClass name = ("", name) := by
  rw [splitClass, dottedParts_of_not_mem h]
  rfl

theorem splitClass_append (module : String) {name : String} (h : '.' ∉ name.toList) :
    splitClass (module ++ "." ++ name) = (module, name) := by
  simp [splitClass, dottedParts_append, dottedParts_of_not_mem h, lastName, join_dottedParts]

/-- A text without dots, or one in front of its last dot and one behind it. -/
theorem last_dot (value : String) :
    '.' ∉ value.toList ∨ ∃ module name, value = module ++ "." ++ name ∧ '.' ∉ name.toList := by
  by_cases h : '.' ∈ value.toList
  · right
    obtain ⟨front, back, hreverse, hfront⟩ :=
      List.eq_append_cons_of_mem (List.mem_reverse.2 h)
    refine ⟨.ofList back.reverse, .ofList front.reverse, ?_, by simpa using hfront⟩
    rw [← String.toList_inj, ← List.reverse_reverse value.toList, hreverse]
    simp
  · exact .inl h

/-! ## Modules of tags -/

theorem taggedModules_cons (tag : String) (tags : List String) :
    taggedModules (tag :: tags) = taggedModules [tag] ++ taggedModules tags := by
  rw [taggedModules, taggedModules, taggedModules, ← List.filter_append, ← List.filterMap_append,
    List.singleton_append]

theorem taggedModules_eq (tags : List String) :
    taggedModules tags = (tags.map fun tag => taggedModules [tag]).flatten := by
  induction tags with
  | nil => rfl
  | cons tag tags ih => rw [taggedModules_cons, List.map_cons, List.flatten_cons, ih]

theorem tag_of_directive? {tag : String} {d : Directive} (h : directive? tag = some d) :
    tag = d.start ++ d.value := by
  unfold directive? directives at h
  obtain ⟨⟨start, make⟩, hmem, hmake⟩ := List.exists_of_findSome?_eq_some h
  obtain ⟨value, hvalue, rfl⟩ := Option.map_eq_some_iff.1 hmake
  rw [behind?_eq_some_iff.1 hvalue]
  simp only [List.mem_cons, Prod.mk.injEq, List.not_mem_nil, or_false] at hmem
  rcases hmem with ⟨rfl, rfl⟩ | ⟨rfl, rfl⟩ | ⟨rfl, rfl⟩ <;> rfl

/-- **A directive is what its tag says.** -/
theorem directive?_eq_some_iff {tag : String} {d : Directive} :
    directive? tag = some d ↔ tag = d.start ++ d.value := by
  refine ⟨tag_of_directive?, ?_⟩
  rintro rfl
  have hmem : d.start ∈ dottedTags := by cases d <;> simp [Directive.start, dottedTags]
  obtain ⟨e, he, hvalue⟩ := Option.map_eq_some_iff.1 (value_of_directive? hmem d.value)
  have hstart := tag_of_directive? he
  rw [hvalue, String.append_left_inj] at hstart
  rw [he]
  cases d <;> cases e <;> simp_all [Directive.start, Directive.value]

/-- Every tag asks for some modules, or for none. -/
theorem exists_tagModules (tag : String) : ∃ modules, TagModules tag modules := by
  have hother : (∀ d, directive? tag = some d → d.start = "@namespace:") →
      ∃ modules, TagModules tag modules := by
    intro hpackage
    refine ⟨[], .other tag (fun value htag => ?_) fun value htag => ?_⟩
    · have hstart := hpackage (.importModule value) (directive?_eq_some_iff.2 htag)
      simp [Directive.start] at hstart
    · have hstart := hpackage (.baseClass value) (directive?_eq_some_iff.2 htag)
      simp [Directive.start] at hstart
  cases hd : directive? tag with
  | none => exact hother (by simp [hd])
  | some d =>
    cases d with
    | package value => exact hother (by simp [hd, Directive.start])
    | importModule value =>
      obtain rfl := directive?_eq_some_iff.1 hd
      exact ⟨_, .use value⟩
    | baseClass value =>
      obtain rfl := directive?_eq_some_iff.1 hd
      rcases last_dot value with hdot | ⟨module, name, rfl, hdot⟩
      · exact ⟨_, .ownBase value hdot⟩
      · exact ⟨_, .base module name hdot⟩

theorem isDottedName_of_tagFault? {tag : String} {d : Directive} (h : tagFault? tag = none)
    (hd : directive? tag = some d) : isDottedName d.value = true := by
  unfold tagFault? at h
  rw [hd] at h
  by_contra hdotted
  simp [hdotted] at h

theorem taggedModules_of_tagModules {tag : String} {modules : List String}
    (h : tagFault? tag = none) (hmodules : TagModules tag modules) :
    taggedModules [tag] = modules := by
  cases hmodules with
  | use module =>
    have hd : directive? ("@using:" ++ module) = some (.importModule module) :=
      directive?_eq_some_iff.2 rfl
    have hne : module ≠ "" := by
      rintro rfl
      exact absurd (isDottedName_of_tagFault? h hd) (by decide)
    simp [taggedModules, hd, hne]
  | base module name hdot =>
    have hd : directive? ("@baseclass:" ++ (module ++ "." ++ name)) =
        some (.baseClass (module ++ "." ++ name)) := directive?_eq_some_iff.2 rfl
    have hne : module ≠ "" := by
      rintro rfl
      have hempty : "" ∈ dottedParts ("" ++ "." ++ name) := by
        rw [dottedParts_append]
        exact List.mem_append_left _ (by decide)
      exact ne_empty_of_isDottedName (isDottedName_of_tagFault? h hd) hempty rfl
    simp [taggedModules, hd, splitClass_append module hdot, hne]
  | ownBase name hdot =>
    have hd : directive? ("@baseclass:" ++ name) = some (.baseClass name) :=
      directive?_eq_some_iff.2 rfl
    simp [taggedModules, hd, splitClass_of_not_mem hdot]
  | other _ husing hbase =>
    cases hd : directive? tag with
    | none => simp [taggedModules, hd]
    | some d =>
      cases d with
      | package value => simp [taggedModules, hd]
      | importModule value => exact absurd (directive?_eq_some_iff.1 hd) (husing value)
      | baseClass value => exact absurd (directive?_eq_some_iff.1 hd) (hbase value)

/-- **The modules of one tag.** -/
theorem tagModules_iff {tag : String} {modules : List String} (h : tagFault? tag = none) :
    TagModules tag modules ↔ modules = taggedModules [tag] := by
  refine ⟨fun hmodules => (taggedModules_of_tagModules h hmodules).symm, ?_⟩
  rintro rfl
  obtain ⟨modules, hmodules⟩ := exists_tagModules tag
  rwa [taggedModules_of_tagModules h hmodules]

/-- A tag asks for one module at most. -/
theorem TagModules.eq_singleton {tag module : String} {modules : List String}
    (h : TagModules tag modules) (hm : module ∈ modules) : modules = [module] := by
  cases h with
  | use m => rw [List.mem_singleton.1 hm]
  | base m name _ => rw [List.mem_singleton.1 hm]
  | ownBase name _ => cases hm
  | other tag _ _ => cases hm

/-! ## Lines -/

section
variable (c : Catalog)

theorem line_convertedLines (f : Gherkin.Feature) :
    (convertedLines (some f)).map (·.line) = allOccurrences f := by
  have hb : ∀ b, (backgroundLines b).map (·.line) = occurrences b.steps := by
    simp [backgroundLines, Function.comp_def]
  have hs : ∀ s, (scenarioLines s).map (·.line) = occurrences s.steps := by
    simp [scenarioLines, Function.comp_def]
  rw [convertedLines, List.map_append, List.map_flatMap, List.map_flatMap]
  simp only [hb, hs]
  rfl

theorem usedDefinitions_eq (f : Gherkin.Feature) :
    usedDefinitions c f = answers c (convertedLines (some f)) := by
  rw [usedDefinitions, ← line_convertedLines, List.filterMap_map]
  refine List.filterMap_congr fun x _ => ?_
  simp only [Function.comp_apply, Occurrence.resolution?, Catalog.resolve?, Option.map_map]
  exact Option.map_id'

theorem backgroundLines_of_one {f : Gherkin.Feature}
    (h : (backgroundsOf f.children).length ≤ 1) :
    (backgroundsOf f.children).flatMap backgroundLines =
      ((backgrounds f).getLast?.map backgroundLines).getD [] := by
  rw [backgroundsOf_children] at h ⊢
  match backgrounds f, h with
  | [], _ => rfl
  | [b], _ => exact List.append_nil _

/-- **Planning in another order** leaves out no line and adds none. -/
theorem perm_convertedLines {d : Gherkin.Document}
    (h : (backgroundsOf (childrenOf d)).length ≤ 1) :
    (convertedLines d).Perm (documentLines d) := by
  cases d with
  | none => exact .refl _
  | some f =>
    refine .append (.of_eq (backgroundLines_of_one h)) ?_
    exact ((perm_gathered f.children).flatMap_right scenarioLines).symm

/-- Of several backgrounds the last one is in the plan; all of them are planned. -/
theorem documentLines_subset (d : Gherkin.Document) : documentLines d ⊆ convertedLines d := by
  cases d with
  | none => exact List.Subset.refl _
  | some f =>
    intro x hx
    refine List.mem_append.2 ((List.mem_append.1 hx).imp (fun hx => ?_) fun hx => ?_)
    · cases hb : (backgrounds f).getLast? with
      | none => simp [hb] at hx
      | some b =>
        rw [hb] at hx
        exact List.mem_flatMap.2 ⟨b, List.mem_of_getLast? hb, hx⟩
    · exact ((perm_gathered f.children).flatMap_right scenarioLines).subset hx

theorem convertedLines_of_shaped {d : Gherkin.Document} (h : ∀ f, d = some f → f.Shaped) :
    convertedLines d = documentLines d := by
  cases d with
  | none => rfl
  | some f =>
    have hgathered := gatheredScenarios_of_shaped (h f rfl)
    have hone : (backgroundsOf f.children).length ≤ 1 := by
      obtain ⟨bs, ss, rs, hchildren, hbs⟩ := h f rfl
      simpa [hchildren, backgroundsOf, List.filterMap_append, List.filterMap_map] using hbs
    have hlines := backgroundLines_of_one hone
    rw [convertedLines, documentLines, Option.map_some, Option.getD_some, planLines, hgathered,
      ← hlines]
    rfl

theorem mem_answers {c : Catalog} {xs : List PlanLine} {definition : StepDefinition} :
    definition ∈ answers c xs ↔ ∃ x ∈ xs, x.definition? c = some definition :=
  List.mem_filterMap

theorem owner_of_answer {x : PlanLine} {definition : StepDefinition} (stubs : List Stub)
    (h : x.definition? c = some definition) : (x.step c stubs).owner = definition.owner := by
  rw [step_of_resolution stubs (resolution?_of_find? h)]
  rfl

/-- The answered steps are those of the answered lines. -/
theorem answered_iff {fileName : String} {d : Gherkin.Document} {p : Plan}
    (h : convert c fileName d = .ok p) {s : Step} {definition : StepDefinition} :
    Answered c d p s definition ↔ ∃ x ∈ documentLines d, x.definition? c = some definition ∧
      s = x.step c ((d.map (stubsOf c)).getD []) := by
  unfold Answered
  rw [allSteps_of_convert h, ← List.map_prod_left_eq_zip]
  simp only [List.mem_map, Prod.mk.injEq]
  constructor
  · rintro ⟨x, ⟨y, hy, rfl, rfl⟩, hdefinition⟩
    exact ⟨y, hy, hdefinition, rfl⟩
  · rintro ⟨x, hx, hdefinition, rfl⟩
    exact ⟨x, ⟨x, hx, rfl, rfl⟩, hdefinition⟩

end

/-! ## Top theorem -/

section
variable {c : Catalog} {fileName : String} {d : Gherkin.Document} {p : Plan}

theorem classes_of_convert (h : convert c fileName d = .ok p) :
    p.classes = ((answers c (convertedLines d)).map (·.owner)).eraseDups := by
  cases d with
  | none =>
    obtain rfl := Except.ok.inj h
    rfl
  | some f =>
    obtain ⟨-, rfl⟩ := convert_some_eq_ok_iff.1 h
    rw [← usedDefinitions_eq, ← distinct_eq]
    rfl

theorem imports_of_convert (h : convert c fileName d = .ok p) :
    p.imports = (taggedModules (tagsOf d) ++
      ((answers c (convertedLines d)).map (·.module)).filter (· ≠ "")).eraseDups := by
  cases d with
  | none =>
    obtain rfl := Except.ok.inj h
    rfl
  | some f =>
    obtain ⟨-, rfl⟩ := convert_some_eq_ok_iff.1 h
    have hnamed : (fun module : String => decide (module ≠ "")) = fun module => module != "" := by
      funext module
      rw [Bool.eq_iff_iff]
      simp
    rw [← usedDefinitions_eq, ← distinct_eq, hnamed]
    rfl

theorem tagFault?_of_convert (h : convert c fileName d = .ok p) {tag : String}
    (ht : tag ∈ tagsOf d) : tagFault? tag = none := by
  cases d with
  | none => cases ht
  | some f =>
    unfold tagFault?
    cases hd : directive? tag with
    | none => rfl
    | some directive => exact if_pos (isDottedName_of_convert h ht hd)

/-- **What is imported**, and for what. -/
theorem mem_imports_iff (h : convert c fileName d = .ok p) {module : String} :
    module ∈ p.imports ↔ (∃ tag ∈ tagsOf d, TagModules tag [module]) ∨
      ∃ definition ∈ answers c (convertedLines d), definition.module = module ∧ module ≠ "" := by
  rw [imports_of_convert h, taggedModules_eq, List.mem_eraseDups, List.mem_append]
  refine or_congr ?_ ?_
  · constructor
    · intro hmodule
      obtain ⟨modules, hm, hmodule⟩ := List.mem_flatten.1 hmodule
      obtain ⟨tag, ht, rfl⟩ := List.mem_map.1 hm
      have htag := (tagModules_iff (tagFault?_of_convert h ht)).2 rfl
      exact ⟨tag, ht, htag.eq_singleton hmodule ▸ htag⟩
    · rintro ⟨tag, ht, htag⟩
      refine List.mem_flatten.2 ⟨_, List.mem_map_of_mem ht, ?_⟩
      rw [← (tagModules_iff (tagFault?_of_convert h ht)).1 htag]
      exact List.mem_singleton_self _
  · rw [List.mem_filter, List.mem_map, decide_eq_true_eq]
    constructor
    · rintro ⟨⟨definition, hanswer, hmodule⟩, hne⟩
      exact ⟨definition, hanswer, hmodule, hne⟩
    · rintro ⟨definition, hanswer, hmodule, hne⟩
      exact ⟨⟨definition, hanswer, hmodule⟩, hne⟩

/-- An answered step has its object and its module. -/
theorem provided_of_answered (h : convert c fileName d = .ok p) {s : Step}
    {definition : StepDefinition} (hs : Answered c d p s definition) :
    s.owner = definition.owner ∧ s.owner ∈ p.classes ∧
      (definition.module ≠ "" → definition.module ∈ p.imports) := by
  obtain ⟨x, hx, hdefinition, rfl⟩ := (answered_iff c h).1 hs
  have howner := owner_of_answer c ((d.map (stubsOf c)).getD []) hdefinition
  have hanswer := mem_answers.2 ⟨x, documentLines_subset d hx, hdefinition⟩
  refine ⟨howner, ?_, fun hne => (mem_imports_iff h).2 (.inr ⟨definition, hanswer, rfl, hne⟩)⟩
  rw [howner, classes_of_convert h, List.mem_eraseDups]
  exact List.mem_map_of_mem hanswer

/-- A definition that answers a planned line has a step of its own, with one background at most. -/
theorem exists_answered (h : convert c fileName d = .ok p)
    (hone : (backgroundsOf (childrenOf d)).length ≤ 1) {definition : StepDefinition}
    (hanswer : definition ∈ answers c (convertedLines d)) :
    ∃ s, Answered c d p s definition ∧ s.owner = definition.owner := by
  obtain ⟨x, hx, hdefinition⟩ := mem_answers.1 hanswer
  exact ⟨_, (answered_iff c h).2 ⟨x, (perm_convertedLines hone).subset hx, hdefinition, rfl⟩,
    owner_of_answer c _ hdefinition⟩

/-- **What a test module needs.**  The classes of a plan are the owners of the definitions that
answer the planned lines, and its imports the modules of the tags and then those of these
definitions, both in order without repeats.  So a step that a definition answers finds its object
made and its module imported, and there is no class and no import that no step or tag asks for. -/
theorem needs_of_convert (h : convert c fileName d = .ok p) : p.Needs c d where
  classes := classes_of_convert h
  imports := by
    refine ⟨(tagsOf d).map fun tag => taggedModules [tag], ?_, ?_⟩
    · rw [List.forall₂_map_right_iff, List.forall₂_same]
      exact fun tag ht => (tagModules_iff (tagFault?_of_convert h ht)).2 rfl
    · rw [imports_of_convert h, taggedModules_eq]
  classesOnce := nodup_classes h
  importsOnce := by
    rw [imports_of_convert h, ← distinct_eq]
    exact nodup_distinct _
  inOrder := convertedLines_of_shaped
  provided _ _ hs := provided_of_answered h hs
  classesAsked := by
    intro hone owner howner
    rw [classes_of_convert h, List.mem_eraseDups] at howner
    obtain ⟨definition, hanswer, rfl⟩ := List.mem_map.1 howner
    obtain ⟨s, hs, howner⟩ := exists_answered h hone hanswer
    exact ⟨s, definition, hs, howner⟩
  importsAsked := by
    intro hone module hmodule
    refine ((mem_imports_iff h).1 hmodule).imp_right ?_
    rintro ⟨definition, hanswer, hmodule, -⟩
    obtain ⟨s, hs, -⟩ := exists_answered h hone hanswer
    exact ⟨s, definition, hs, hmodule⟩

end

/-- A definition for a step of a context. -/
def bankDefinition (pattern owner module : String) : StepDefinition :=
  { kind := .context, pattern, owner, module, method := "open", parameters := [] }

/-- A class with its module, one without, and one that no step uses. -/
def bankCatalog : Catalog :=
  [bankDefinition "a bank" "Bank" "steps.bank", bankDefinition "a till" "Till" "",
    bankDefinition "a vault" "Vault" "steps.vault"]

def bankFeature : Gherkin.Feature :=
  { tags := ["@using:tests.bank", "@baseclass:tests.base.Ground", "@using:tests.base", "@slow"],
    language := "en", keyword := "Feature", name := "Banking", description := "",
    children := [.scenario (oneStep "a till" none), .scenario (oneStep "a bank" none),
      .rule (oneScenario "a till"), .rule (oneScenario "a door")] }

theorem bankFeature_needs : ∃ p, convert bankCatalog "bank" (some bankFeature) = .ok p ∧
    p.Needs bankCatalog (some bankFeature) ∧ p.classes = ["Till", "Bank"] ∧
    p.imports = ["tests.bank", "tests.base", "steps.bank"] := by
  have hc : convert bankCatalog "bank" (some bankFeature) =
      .ok (plan bankCatalog "bank" bankFeature) :=
    convert_some_eq_ok_iff.2 ⟨by decide +kernel, rfl⟩
  exact ⟨_, hc, needs_of_convert hc, by decide +kernel, by decide +kernel⟩

end Acceptance.Plan
