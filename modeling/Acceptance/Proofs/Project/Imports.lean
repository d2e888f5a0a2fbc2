import Acceptance.Proofs.Plan.LegalNames
import Acceptance.Proofs.Plan.Needs
import Acceptance.Proofs.Project.Reports
import Acceptance.Proofs.Source.Binding

/-!
# Imports and base class

What a test module imports and what its class extends come from the tags of the feature and from
the paths of the step sources.  The words of a tag open with a plain letter and go on with word
characters; those are more than the characters of identifiers, and reserved words are among them.
Of a path nothing is asked at all.  Where neither goes wrong, and only there, both are legal.

    IsModuleName s ↔ ∀ word ∈ dottedParts s, LegalName isReserved word     (isModuleName_iff)
    IsModuleName (join "." names) ↔ ∀ name ∈ names, IsModuleName name      (isModuleName_join_iff)
    word ∈ dottedParts value → (LegalName isReserved word ↔ Usable word)   (legalName_iff_usable)
    definition ∈ c ↔ some source of the paths holds it                     (mem_catalog_iff)
    p.LegalHeader ↔ WellNamed t paths root c d p                           (legalHeader_iff)
-/

namespace Acceptance.Plan

open Acceptance.Text

/-! ## Algorithm -/

/-- Words with dots between them, each an identifier that is not reserved. -/
def IsModuleName (s : String) : Prop :=
  ∃ words, words ≠ [] ∧ s = join "." words ∧ ∀ word ∈ words, LegalName isReserved word

/-- A plan whose imports and whose base class may be written down. -/
structure LegalHeader (p : Plan) : Prop where
  imports : ∀ module ∈ p.imports, IsModuleName module
  baseClass : p.baseClass = "" ∨ LegalName isReserved p.baseClass

/-- A word that is not reserved, of characters that may stand in an identifier. -/
structure Usable (word : String) : Prop where
  free : isReserved word = false
  parts : OfParts word.toList

instance {word : String} : Decidable (Usable word) :=
  decidable_of_iff (isReserved word = false ∧ word.toList.all isIdentifierPart = true)
    ⟨fun h => ⟨h.1, ofParts_of_all h.2⟩, fun h => ⟨h.free, List.all_eq_true.2 h.parts⟩⟩

/-- The names that the module of a source is called by: the directories from the source root, then
the source itself without its ending, unless it is a package's own source. -/
def moduleNames (here : Location) (source root : Path) : List String :=
  let parts := sourceParts here source root
  let stem : String := .ofList (Path.splitName (lastName parts).toList).1
  parts.dropLast ++ if stem = packageSource then [] else [stem]

/-- A source that a definition is read from. -/
def Holds (t : FileTree) (root source : Path) (definition : StepDefinition) : Prop :=
  ∃ text module ds, t.readText source = .ok text ∧ moduleName t.here source root = .ok module ∧
    Source.analyze text module = some ds ∧ definition ∈ ds

/-- Tags and step sources whose names may all be imported. -/
structure WellNamed (t : FileTree) (paths : List Path) (root : Path) (c : Catalog)
    (d : Gherkin.Document) (p : Plan) : Prop where
  tags : ∀ tag ∈ tagsOf d, ∀ module, TagModules tag [module] →
    ∀ word ∈ dottedParts module, Usable word
  baseClass : p.baseClass = "" ∨ Usable p.baseClass
  /-- The directories and sources behind the definitions that answer lines. -/
  sources : ∀ definition ∈ answers c (convertedLines d), definition.module ≠ "" →
    ∀ path ∈ paths, ∀ source, t.IsSourceAt path source → Holds t root source definition →
      ∀ name ∈ moduleNames t.here source root, IsModuleName name

/-! ## Dotted names -/

theorem LegalName.ofParts {reserved : String → Bool} {word : String} (h : LegalName reserved word) :
    OfParts word.toList := by
  have hid : isIdentifierList word.toList = true := h.identifier
  cases hword : word.toList with
  | nil => exact nofun
  | cons first rest =>
    rw [hword, isIdentifierList, Bool.and_eq_true] at hid
    exact List.forall_mem_cons.2 ⟨isIdentifierPart_of_start hid.1, ofParts_of_all hid.2⟩

theorem dottedParts_of_legalName {word : String} (h : LegalName isReserved word) :
    dottedParts word = [word] :=
  dottedParts_of_not_mem fun hmem => absurd (h.ofParts '.' hmem) (by decide)

/-- **A module name is one word by word.** -/
theorem isModuleName_iff {s : String} :
    IsModuleName s ↔ ∀ word ∈ dottedParts s, LegalName isReserved word := by
  constructor
  · rintro ⟨words, hne, rfl, hwords⟩ word hword
    rw [dottedParts_join hne] at hword
    obtain ⟨other, ho, hword⟩ := List.mem_flatMap.1 hword
    rw [dottedParts_of_legalName (hwords other ho), List.mem_singleton] at hword
    exact hword ▸ hwords other ho
  · intro h
    exact ⟨_, by simpa [dottedParts] using splitAt_ne_nil '.' s.toList, (join_dottedParts s).symm, h⟩

instance {reserved : String → Bool} {word : String} : Decidable (LegalName reserved word) :=
  decidable_of_iff (isIdentifier word = true ∧ reserved word = false)
    ⟨fun h => ⟨h.1, h.2⟩, fun h => ⟨h.identifier, h.free⟩⟩

instance {s : String} : Decidable (IsModuleName s) := decidable_of_iff _ isModuleName_iff.symm

/-- **A module name is one name by name**, whether these have dots or not. -/
theorem isModuleName_join_iff {names : List String} (h : names ≠ []) :
    IsModuleName (join "." names) ↔ ∀ name ∈ names, IsModuleName name := by
  simp only [isModuleName_iff, dottedParts_join h, List.forall_mem_flatMap]

/-! ## Words of tags -/

theorem isIdentifierStart_of_plain {c : Char} (h : isPlainLetter c = true) :
    isIdentifierStart c = true := by
  have hall : ∀ n < 123, isPlainLetter (Char.ofNat n) = true →
      isIdentifierStart (Char.ofNat n) = true := by decide
  have hsmall : c.toNat < 123 := by
    rcases Bool.or_eq_true_iff.1 h with hletter | hline
    · have hlast : c.val ≤ 'z'.val := by
        rcases Bool.or_eq_true_iff.1 hletter with hupper | hlower
        · exact UInt32.le_trans (of_decide_eq_true hupper).2 (by decide)
        · exact of_decide_eq_true (Bool.and_eq_true_iff.1 hlower).2
      exact Nat.lt_of_le_of_lt (UInt32.le_iff_toNat_le.1 hlast) (by decide)
    · rw [beq_iff_eq.1 hline]
      decide
  have hc := hall c.toNat hsmall
  rw [Char.ofNat_toNat] at hc
  exact hc h

/-- The words of a dotted name open with a plain letter. -/
theorem plain_of_isDottedName {value : String} (h : isDottedName value = true) {piece : List Char}
    (hp : piece ∈ splitAt '.' value.toList) :
    ∃ first rest, piece = first :: rest ∧ isPlainLetter first = true := by
  have hplain : ∀ piece, isDottedPart piece = true →
      ∃ first rest, piece = first :: rest ∧ isPlainLetter first = true := by
    intro piece hpiece
    obtain ⟨first, rest, hfirst, hletter, -⟩ := (isDottedPart_iff piece).1 hpiece
    exact ⟨first, rest, hfirst, hletter⟩
  unfold isDottedName at h
  simp only [List.all_eq_true] at h
  split at h
  · next hlast =>
    -- the line feed behind the name goes to its last word
    obtain ⟨body, hvalue⟩ := List.getLast?_eq_some_iff.1 hlast
    rw [hvalue, List.dropLast_concat] at h
    obtain ⟨before, last, hs, hc⟩ := splitAt_concat (c := '.') (d := '\n') (by decide) body
    rw [hvalue, hc] at hp
    rw [hs] at h
    rcases List.mem_append.1 hp with hp | hp
    · exact hplain piece (h piece (List.mem_append_left _ hp))
    · obtain ⟨first, rest, rfl, hletter⟩ := hplain last (h last (by simp))
      exact ⟨first, rest ++ ['\n'], List.mem_singleton.1 hp, hletter⟩
  · exact hplain piece (h piece hp)

/-- **The words of a tag.**  What a word needs more to be legal. -/
theorem legalName_iff_usable {value word : String} (h : isDottedName value = true)
    (hword : word ∈ dottedParts value) : LegalName isReserved word ↔ Usable word := by
  refine ⟨fun hlegal => ⟨hlegal.free, hlegal.ofParts⟩, fun husable => ⟨?_, husable.free⟩⟩
  obtain ⟨piece, hpiece, rfl⟩ := List.mem_map.1 hword
  obtain ⟨first, rest, rfl, hletter⟩ := plain_of_isDottedName h hpiece
  have hparts := husable.parts
  rw [String.toList_ofList] at hparts
  rw [isIdentifier, String.toList_ofList, isIdentifierList, isIdentifierStart_of_plain hletter,
    Bool.true_and, List.all_eq_true]
  exact fun c hc => hparts c (List.mem_cons_of_mem _ hc)

/-! ## Sources -/

theorem moduleName_eq_ok_iff {here : Location} {source root : Path} {module : String} :
    moduleName here source root = .ok module ↔
      sourceParts here source root ≠ [] ∧ module = join "." (moduleNames here source root) := by
  unfold moduleName moduleNames
  obtain hnil | ⟨above, name, hparts⟩ := List.eq_nil_or_concat (sourceParts here source root)
  · simp [hnil]
  · have hlast : lastName (above ++ [name]) = name := by simp [lastName]
    simp only [hparts, List.concat_eq_append, List.reverse_append, List.reverse_singleton,
      List.singleton_append, List.dropLast_concat, hlast, Except.ok.injEq]
    have hne : above ++ [name] ≠ [] := by simp
    simp only [ne_eq, hne, not_false_eq_true, true_and]
    split
    · rw [List.reverse_reverse, List.append_nil, eq_comm]
    · rw [List.reverse_cons, List.reverse_reverse, eq_comm]

section
variable {t : FileTree} {root : Path} {definition : StepDefinition}

theorem module_of_analyze {text module : String} {ds : List StepDefinition}
    (h : Source.analyze text module = some ds) (hd : definition ∈ ds) :
    definition.module = module := by
  obtain ⟨body, -, rfl⟩ := Option.map_eq_some_iff.1 h
  rw [Source.bodyDefinitions_eq] at hd
  obtain ⟨m, -, hd⟩ := List.mem_flatMap.1 hd
  obtain ⟨⟨kind, pattern⟩, -, rfl⟩ := List.mem_map.1 hd
  rfl

theorem module_of_holds {source : Path} (h : Holds t root source definition) :
    definition.module = join "." (moduleNames t.here source root) := by
  obtain ⟨text, module, ds, -, hmodule, hanalyze, hd⟩ := h
  rw [module_of_analyze hanalyze hd]
  exact (moduleName_eq_ok_iff.1 hmodule).2

/-- The definitions of one source that does not stop the reading. -/
theorem mem_readSource_iff {source : Path} {ds : List StepDefinition}
    (h : (readSource t root source).result = .ok ds) :
    definition ∈ ds ↔ Holds t root source definition := by
  unfold readSource at h
  unfold Holds
  cases hread : t.readText source with
  | error e => cases e <;> simp_all
  | ok text =>
    rw [hread] at h
    simp only at h
    cases hmodule : moduleName t.here source root with
    | error e =>
      rw [hmodule] at h
      cases h
    | ok module =>
      rw [hmodule] at h
      simp only at h
      cases hanalyze : Source.analyze text module <;> simp_all

theorem mem_readSources_iff {sources : List Path} {c : Catalog}
    (h : (readSources t root sources).result = .ok c) :
    definition ∈ c ↔ ∃ source ∈ sources, Holds t root source definition := by
  induction sources generalizing c with
  | nil =>
    obtain rfl := Except.ok.inj h
    simp
  | cons source sources ih =>
    rw [Project.result_readSources_cons] at h
    cases hsource : (readSource t root source).result with
    | error e =>
      rw [hsource] at h
      cases h
    | ok ds =>
      rw [hsource] at h
      cases hothers : (readSources t root sources).result with
      | error e =>
        rw [hothers] at h
        cases h
      | ok others =>
        rw [hothers] at h
        obtain rfl := Except.ok.inj h
        rw [List.mem_append, mem_readSource_iff hsource, ih hothers, List.exists_mem_cons_iff]

/-- **The definitions of a catalog are those of its sources.** -/
theorem mem_catalog_iff {paths : List Path} {c : Catalog}
    (h : (buildCatalog t paths root).result = .ok c) :
    definition ∈ c ↔ ∃ path ∈ paths, ∃ source, t.IsSourceAt path source ∧
      Holds t root source definition := by
  obtain ⟨sources, hfind, hread⟩ := Project.result_buildCatalog_eq_ok_iff.1 h
  rw [mem_readSources_iff hread]
  simp only [mem_findSources_iff hfind]
  constructor
  · rintro ⟨source, ⟨path, hpath, hsource⟩, hholds⟩
    exact ⟨path, hpath, source, hsource, hholds⟩
  · rintro ⟨path, hpath, source, hsource, hholds⟩
    exact ⟨source, ⟨path, hpath, hsource⟩, hholds⟩

end

/-! ## Top theorem -/

section
variable {t : FileTree} {paths : List Path} {root : Path} {c : Catalog} {fileName : String}
  {d : Gherkin.Document} {p : Plan}

theorem isDottedName_of_mem {d : Gherkin.Document} (h : convert c fileName d = .ok p)
    (directive : Directive) (ht : directive.start ++ directive.value ∈ tagsOf d) :
    isDottedName directive.value = true :=
  isDottedName_of_tagFault? (tagFault?_of_convert h ht) (directive?_eq_some_iff.2 rfl)

/-- The words of a tag's module. -/
theorem isModuleName_of_tag_iff (h : convert c fileName d = .ok p) {tag module : String}
    (ht : tag ∈ tagsOf d) (hmodule : TagModules tag [module]) :
    IsModuleName module ↔ ∀ word ∈ dottedParts module, Usable word := by
  have hvalue : ∃ value, isDottedName value = true ∧ dottedParts module ⊆ dottedParts value := by
    cases hmodule with
    | use => exact ⟨module, isDottedName_of_mem h (.importModule module) ht, List.Subset.refl _⟩
    | base _ name _ =>
      refine ⟨_, isDottedName_of_mem h (.baseClass (module ++ "." ++ name)) ht, ?_⟩
      rw [Directive.value, dottedParts_append]
      exact List.subset_append_left _ _
  obtain ⟨value, hdotted, hsubset⟩ := hvalue
  rw [isModuleName_iff]
  exact forall₂_congr fun word hword => legalName_iff_usable hdotted (hsubset hword)

/-- The base class is the last word of a tag. -/
theorem baseClass_mem_dottedParts (h : convert c fileName d = .ok p) (hne : p.baseClass ≠ "") :
    ∃ value, isDottedName value = true ∧ p.baseClass ∈ dottedParts value := by
  cases d with
  | none =>
    obtain rfl := Except.ok.inj h
    exact absurd rfl hne
  | some f =>
    have hbase : p.baseClass = baseClassOf f.tags := by rw [(convert_some_eq_ok_iff.1 h).2]; rfl
    rw [hbase] at hne ⊢
    obtain ⟨tag, ht, hclass⟩ := List.mem_filterMap.1 ((mem_of_lastName rfl).resolve_left hne)
    split at hclass
    · next value hd =>
      have hlast : baseClassOf f.tags = lastName (dottedParts value) :=
        (Option.some.inj hclass).symm
      have hdotted := isDottedName_of_convert h ht hd
      refine ⟨value, hdotted, ?_⟩
      rw [hlast] at hne ⊢
      exact (mem_of_lastName rfl).resolve_left hne
    · cases hclass

theorem legalName_baseClass_iff (h : convert c fileName d = .ok p) :
    (p.baseClass = "" ∨ LegalName isReserved p.baseClass) ↔
      (p.baseClass = "" ∨ Usable p.baseClass) := by
  by_cases hne : p.baseClass = ""
  · simp [hne]
  · obtain ⟨value, hdotted, hword⟩ := baseClass_mem_dottedParts h hne
    rw [legalName_iff_usable hdotted hword]

/-- The names that a source's module goes by. -/
theorem isModuleName_of_holds_iff {source : Path} {definition : StepDefinition}
    (h : Holds t root source definition) (hne : definition.module ≠ "") :
    IsModuleName definition.module ↔
      ∀ name ∈ moduleNames t.here source root, IsModuleName name := by
  have hmodule := module_of_holds h
  rw [hmodule, isModuleName_join_iff]
  intro hnil
  rw [hnil] at hmodule
  exact hne hmodule

theorem mem_of_answer {xs : List PlanLine} {definition : StepDefinition}
    (h : definition ∈ answers c xs) : definition ∈ c := by
  obtain ⟨x, -, hx⟩ := mem_answers.1 h
  rw [PlanLine.definition?, Catalog.find?_eq_or, Option.or_eq_some_iff] at hx
  rcases hx with hx | ⟨-, hx⟩
  · exact (List.mem_filter.1 (List.mem_of_find?_eq_some hx)).1
  · exact (List.mem_filter.1 (List.mem_of_find?_eq_some hx)).1

/-- **Where imports and base class are legal.**  With a catalog read from step sources, the imports
of a plan are words with dots between them that are identifiers and not reserved, and so is its base
class if there is one, exactly where the words of the tags are not reserved and have no characters
but those of identifiers, and where the directories from the source root and the names of the step
sources behind the answered lines are such module names themselves. -/
theorem legalHeader_iff (hc : (buildCatalog t paths root).result = .ok c)
    (h : convert c fileName d = .ok p) : p.LegalHeader ↔ WellNamed t paths root c d p := by
  constructor
  · rintro ⟨himports, hbase⟩
    refine ⟨fun tag ht module hmodule => ?_, (legalName_baseClass_iff h).1 hbase, ?_⟩
    · exact (isModuleName_of_tag_iff h ht hmodule).1
        (himports module ((mem_imports_iff h).2 (.inl ⟨tag, ht, hmodule⟩)))
    · intro definition hanswer hne path _ source _ hholds
      exact (isModuleName_of_holds_iff hholds hne).1
        (himports _ ((mem_imports_iff h).2 (.inr ⟨definition, hanswer, rfl, hne⟩)))
  · rintro ⟨htags, hbase, hsources⟩
    refine ⟨fun module hmodule => ?_, (legalName_baseClass_iff h).2 hbase⟩
    rcases (mem_imports_iff h).1 hmodule with ⟨tag, ht, hmodule⟩ | ⟨definition, hanswer, rfl, hne⟩
    · exact (isModuleName_of_tag_iff h ht hmodule).2 (htags tag ht module hmodule)
    · obtain ⟨path, hpath, source, hsource, hholds⟩ :=
        (mem_catalog_iff hc).1 (mem_of_answer hanswer)
      exact (isModuleName_of_holds_iff hholds hne).2
        (hsources definition hanswer hne path hpath source hsource hholds)

end

/-- A step source with one definition. -/
def bulbSource : String := "class Bulb:\n    @given('light')\n    def on(self): pass\n"

/-- The tree of the source, in the directories of `stepsPath`. -/
def bulbTree : FileTree := (Project.stepsOf bulbSource.toUTF8).tree

def bulbSteps : Catalog :=
  [{ kind := .context, pattern := "light", owner := "Bulb", module := "tests.steps.lamp",
     method := "on", parameters := [] }]

theorem bulbTree_isSourceAt {source : Path} (h : bulbTree.IsSourceAt Project.stepsPath source) :
    source = Project.lampPath := by
  have hlook : bulbTree.look Project.stepsPath = .ok (["home", "tests", "steps"], .directory) := rfl
  rcases h with ⟨-, hfound⟩ | ⟨⟨l, b, hfile⟩, -⟩
  · rw [bulbTree, Project.stepsOf_find] at hfound
    exact List.mem_singleton.1 hfound
  · rw [hlook] at hfile
    cases hfile

theorem bulbTree_here : bulbTree.here = ["home"] := rfl

theorem bulbTree_builds :
    (buildCatalog bulbTree [Project.stepsPath] ⟨1, ["home"]⟩).result = .ok bulbSteps := by
  have hsources : (findSources bulbTree [Project.stepsPath]).result = .ok [Project.lampPath] := by
    have hprobe : bulbTree.probe Project.stepsPath = .ok (some .directory) := rfl
    rw [findSources, sourcesAt, hprobe]
    simp only [bulbTree, Project.stepsOf_find]
    rfl
  refine Project.result_buildCatalog_eq_ok_iff.2 ⟨_, hsources, ?_⟩
  have hread : bulbTree.readText Project.lampPath = .ok bulbSource := by
    have hlook : bulbTree.look Project.lampPath =
        .ok (["home", "tests", "steps", "lamp.py"], .file bulbSource.toUTF8) := rfl
    rw [FileTree.readText, FileTree.readBytes, hlook]
    simp only [decode_toUTF8]
    rw [unifyLineEnds_eq_self (by decide), String.ofList_toList]
  have hmodule : moduleName bulbTree.here Project.lampPath ⟨1, ["home"]⟩ =
      .ok "tests.steps.lamp" := by
    rw [bulbTree_here]
    decide +kernel
  have hsteps : Source.analyze bulbSource "tests.steps.lamp" = some bulbSteps := by decide +kernel
  rw [Project.result_readSources_cons, readSource, hread]
  simp only [hmodule, hsteps]
  rfl

/-- A feature with a tag, and a step that the source answers. -/
def bulbFeature (tag : String) : Gherkin.Feature :=
  { tags := [tag], language := "en", keyword := "Feature", name := "Light", description := "",
    children := [.scenario (oneStep "light" none)] }

theorem bulbFeature_legal : ∃ p, convert bulbSteps "a" (some (bulbFeature "@baseclass:tests.Base")) =
      .ok p ∧ p.LegalHeader ∧ p.imports = ["tests", "tests.steps.lamp"] ∧ p.baseClass = "Base" := by
  have hc : convert bulbSteps "a" (some (bulbFeature "@baseclass:tests.Base")) =
      .ok (plan bulbSteps "a" (bulbFeature "@baseclass:tests.Base")) :=
    convert_some_eq_ok_iff.2 ⟨by decide +kernel, rfl⟩
  refine ⟨_, hc, (legalHeader_iff bulbTree_builds hc).2 ⟨?_, ?_, ?_⟩, by decide +kernel,
    by decide +kernel⟩
  · intro tag ht module hmodule
    have hmodules : taggedModules ["@baseclass:tests.Base"] = ["tests"] := by decide +kernel
    rw [tagModules_iff (tagFault?_of_convert hc ht), List.mem_singleton.1 ht, hmodules] at hmodule
    rw [List.singleton_inj.1 hmodule]
    decide +kernel
  · exact .inr (by decide +kernel)
  · intro definition _ _ path hpath source hsource _ name hname
    rw [List.mem_singleton.1 hpath] at hsource
    rw [bulbTree_isSourceAt hsource, bulbTree_here] at hname
    have hnames : ∀ name ∈ moduleNames ["home"] Project.lampPath ⟨1, ["home"]⟩,
        IsModuleName name := by decide +kernel
    exact hnames name hname

/-- A tag that is accepted asks for a module whose name has a reserved word. -/
theorem bulbFeature_reserved : ∃ p,
    (buildCatalog bulbTree [Project.stepsPath] ⟨1, ["home"]⟩).result = .ok bulbSteps ∧
      convert bulbSteps "a" (some (bulbFeature "@using:tests.class")) = .ok p ∧
      "tests.class" ∈ p.imports ∧ ¬ IsModuleName "tests.class" ∧ ¬ p.LegalHeader := by
  have hc : convert bulbSteps "a" (some (bulbFeature "@using:tests.class")) =
      .ok (plan bulbSteps "a" (bulbFeature "@using:tests.class")) :=
    convert_some_eq_ok_iff.2 ⟨by decide +kernel, rfl⟩
  have himport : "tests.class" ∈ (plan bulbSteps "a" (bulbFeature "@using:tests.class")).imports := by
    decide +kernel
  have hreserved : ¬ IsModuleName "tests.class" := by decide +kernel
  exact ⟨_, bulbTree_builds, hc, himport, hreserved, fun h => hreserved (h.imports _ himport)⟩

end Acceptance.Plan
