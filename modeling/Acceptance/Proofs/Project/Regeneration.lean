import Acceptance.Proofs.Project.Isolation
import Acceptance.Proofs.Project.SecondRun
import Acceptance.Proofs.Project.SecondStart

/-!
# A run that is made again

A run that came to a report is made again on the tree that it left.  Where its outputs are kept
apart from the step sources and the template, and making the output directory changes neither where
the step sources are nor which files are features, the second run comes to the same entries and the
same diagnostics and leaves the tree as it is, whether its features were written, failed or
collided.  One thing shows through: where a feature cannot be written, why may be told differently,
since directories above its outputs are there by then.

    the second run repeats the first one                      (run_is_idempotent)
    where it does not                                         (second_run_differs)
-/

namespace Acceptance.Project

open Acceptance.Text

/-- A second run, on the tree that a first one left. -/
def again (p : Project) (c : Config) : RunResult := (p.withTree (p.run c true).tree).run c true

section
variable {p : Project} {c : Config} {report : Report} {q : Prepared} {r : Run}

/-- A second run that repeats a report and leaves the tree of the first run as it is. -/
def RepeatedBy (p : Project) (c : Config) (report : Report) (second : RunResult) : Prop :=
  second.tree = (p.run c true).tree ∧ ∃ report', second.result = .ok report' ∧
    report'.files = report.files ∧
    List.Forall₂ Diagnostic.Like report.diagnostics report'.diagnostics

/-- A run that changed nothing is the same run when it is made again. -/
theorem repeated_of_tree (reported : (p.run c true).result = .ok report)
    (tree : (p.run c true).tree = p.tree) : p.RepeatedBy c report (p.again c) := by
  have hagain : p.again c = p.run c true := by
    rw [again, tree]
    rfl
  rw [hagain]
  exact ⟨rfl, report, reported, rfl, Diagnostic.Like.refl_all _⟩

/-- A run that took features is repeated on the tree that it left. -/
theorem repeated_of_after (hq : p.prepare c true = .ok q) (hr : q.after q.paths = .ok r)
    (separate : p.Separate c q.job.outputDir) (steady : p.Steady c (p.run c true).tree)
    (some : q.paths ≠ []) : p.RepeatedBy c r.report (p.again c) := by
  have hprepares := prepares_of_prepare hq
  have hrun := run_of_after hq hr
  have hfilled := Run.features_filled hr
  rw [hprepares.tree] at hfilled
  rw [hrun] at steady
  obtain ⟨q', hq', hjob, hpaths, hreport⟩ := prepare_of_filled hq hfilled separate steady some
  have hprepares' := prepares_of_prepare hq'
  have hstart : Run.Repeats q.start q'.start := by
    constructor
    case claims => rw [hprepares.claims, hprepares'.claims]
    case files => rw [hreport]
    case diagnostics =>
      rw [hreport]
      exact Diagnostic.Like.refl_all _
  have hnodup := features_shown_nodup hprepares.features
  rw [← hprepares.root] at hnodup
  obtain ⟨s, hs, hrepeats, htree⟩ :=
    hstart.features hprepares.write hr hprepares'.tree hprepares.leads hnodup
  have hafter : q'.after q'.paths = .ok s := by
    rw [Prepared.after, hjob, hpaths]
    exact hs
  have hagain : p.again c = s.ended := by
    rw [again, hrun]
    exact run_of_after hq' hafter
  rw [hagain, RepeatedBy, hrun]
  exact ⟨htree.trans hprepares'.tree, s.report, rfl, hrepeats.files, hrepeats.diagnostics⟩

end

/-! ## Top theorem -/

/-- **A run that is made again repeats itself.**  A run that writes comes to a report; the output
directory and the step sources do not lie within each other, and the template that is named does not
lie below the output directory; the directories that the run makes lead to no other step sources and
are no features.  Then the same run on the tree that is left comes to a report with the same entries
and with diagnostics that say the same, and changes nothing. -/
theorem run_is_idempotent {p : Project} {c : Config} {report : Report}
    (reported : (p.run c true).result = .ok report)
    (separate : ∀ directory, p.pathOf c.outputDir = .ok directory → p.Separate c directory)
    (steady : p.Steady c (p.run c true).tree) :
    (p.again c).tree = (p.run c true).tree ∧
      ∃ report', (p.again c).result = .ok report' ∧ report'.files = report.files ∧
        List.Forall₂ Diagnostic.Like report.diagnostics report'.diagnostics := by
  cases hq : p.prepare c true with
  | error ended =>
    refine repeated_of_tree reported ?_
    rw [run, hq]
    exact (ended_of_prepare_error hq).1
  | ok q =>
    have hprepares := prepares_of_prepare hq
    obtain ⟨r, hr, rfl⟩ := (report_iff_of_prepare hq).1 reported
    by_cases hsome : q.paths = []
    · -- there is no feature to take
      refine repeated_of_tree reported ?_
      rw [run_of_after hq hr]
      rw [hsome] at hr
      obtain rfl := Except.ok.inj hr
      exact hprepares.tree
    · exact repeated_of_after hq hr (separate _ hprepares.outputDir) steady hsome

/-- Outputs that are apart from one list of step sources and one template. -/
theorem separate_of_paths {p : Project} {c : Config} {directory path : Path} {dirs : List Path}
    (hdirs : Config.paths c.stepsDirs = .ok dirs) (hpath : p.pathOf c.template = .ok path)
    (steps : ∀ dir ∈ dirs,
      ¬ directory.place p.tree.here <+: (p.root.«to» dir).place p.tree.here ∧
        ¬ (p.root.«to» dir).place p.tree.here <+: directory.place p.tree.here)
    (template : ¬ directory.place p.tree.here <+: path.place p.tree.here) :
    p.Separate c directory := by
  constructor
  case steps =>
    intro dirs' h
    obtain rfl := Except.ok.inj (hdirs.symm.trans h)
    exact steps
  case template =>
    intro _ path' h
    obtain rfl := Except.ok.inj (hpath.symm.trans h)
    exact template

/-- Directories that are made lead to no other step sources where the paths of these resolve, and
are no features where none that is missing on the way to the output directory has the name of
one. -/
theorem steady_of_way {p : Project} {c : Config} {report : Report}
    (reported : (p.run c true).result = .ok report)
    (steps : ∀ dirs, Config.paths c.stepsDirs = .ok dirs → ∀ dir ∈ dirs,
      p.tree.Resolves (p.root.«to» dir))
    (features : ∀ directory, p.pathOf c.outputDir = .ok directory →
      ∀ path, p.pathOf c.featuresDir = .ok path → ∀ k ∈ directory.way p.tree.here,
        path.place p.tree.here <+: k → Run.IsFeaturePlace k → p.tree.node? k ≠ none) :
    p.Steady c (p.run c true).tree := by
  constructor
  case steps => exact fun dirs hdirs dir hdir => .inl (steps dirs hdirs dir hdir)
  case features =>
    intro path hpath k hbelow hfeature free
    cases hq : p.prepare c true with
    | error ended =>
      rw [run, hq]
      show ended.tree.node? k ≠ _
      rw [(ended_of_prepare_error hq).1, free]
      exact (Option.some_ne_none _).symm
    | ok q =>
      have hprepares := prepares_of_prepare hq
      obtain ⟨r, hr, -⟩ := (report_iff_of_prepare hq).1 reported
      have hfilled := Run.features_filled hr
      rw [hprepares.tree] at hfilled
      rw [run_of_after hq hr]
      intro hmade
      cases hfilled.node k with
      | same node => cases (free.symm.trans node.symm).trans hmade
      | directory _ _ way =>
        have hway := way.resolve_right (not_not_intro (Run.dotted_of_isFeaturePlace hfeature))
        exact features _ hprepares.outputDir path hpath k hway hbelow hfeature free
      | file _ written =>
        obtain ⟨b, hb⟩ := written
        cases hb.symm.trans hmade

/-- A run with two features that give one output path repeats itself. -/
theorem twins_repeated : ∃ report report', (twins.run twinsConfig true).result = .ok report ∧
    (twins.again twinsConfig).result = .ok report' ∧
    report.files.map (·.outputPath) = ["test_a.py"] ∧ report.diagnostics.length = 1 ∧
    report'.files = report.files ∧
    List.Forall₂ Diagnostic.Like report.diagnostics report'.diagnostics ∧
    (twins.again twinsConfig).tree = (twins.run twinsConfig true).tree := by
  obtain ⟨report, hreport, hview⟩ := report_of_view
    (fun r => (r.files.map (·.outputPath), r.diagnostics.length)) twins_prepare
    (a := (["test_a.py"], 1)) (by decide +kernel)
  have hdirectory : ∀ directory, twins.pathOf twinsConfig.outputDir = .ok directory →
      directory = ⟨1, ["home", "tests", "generated"]⟩ :=
    fun directory h => (Except.ok.inj h).symm
  have hdirs : Config.paths twinsConfig.stepsDirs = .ok [⟨0, ["tests", "steps"]⟩] := rfl
  have separate : ∀ directory, twins.pathOf twinsConfig.outputDir = .ok directory →
      twins.Separate twinsConfig directory := by
    intro directory h
    obtain rfl := hdirectory directory h
    exact separate_of_paths hdirs rfl (by decide) (by decide)
  have steady : twins.Steady twinsConfig (twins.run twinsConfig true).tree := by
    refine steady_of_way hreport ?_ ?_
    · intro dirs h
      obtain rfl := Except.ok.inj (hdirs.symm.trans h)
      intro dir hdir
      obtain rfl := List.mem_singleton.1 hdir
      right
      decide
    · -- nothing on the way has such a name but what is there
      intro directory h _ _ k hk _ hfeature
      obtain rfl := hdirectory directory h
      have hway : Path.way twins.tree.here ⟨1, ["home", "tests", "generated"]⟩ =
          [[], ["home"], ["home", "tests"], ["home", "tests", "generated"]] := rfl
      simp only [hway, List.mem_cons, List.not_mem_nil, or_false] at hk
      rcases hk with rfl | rfl | rfl | rfl
      · exact FileTree.node?_nil _ ▸ Option.some_ne_none _
      · decide
      · exact absurd (hfeature.getLast? rfl) (by decide)
      · exact absurd (hfeature.getLast? rfl) (by decide)
  obtain ⟨htree, report', hreport', hfiles, hlike⟩ := run_is_idempotent hreport separate steady
  exact ⟨report, report', hreport, hreport', congrArg Prod.fst hview, congrArg Prod.snd hview,
    hfiles, hlike, htree⟩

/-! ## What shows through -/

/-- A step source with one definition. -/
def lampSource : String :=
  "class Lamp:\n @given(\"light\")\n def on(self): pass\n"

/-- A project with a step source, a feature with a step, and a file in the way of a directory of its
name. -/
def lamp : Project :=
  { tree := ((((((FileTree.empty ["home"]).putDirectory ["home"]).putFile ["home", "t.j2"]
      "# tests".toUTF8).putFile ["home", "f"] "".toUTF8).putFile ["home", "lamp.py"]
      lampSource.toUTF8).putDirectory ["home", "features"]).putFile
        ["home", "features", "a.feature"]
        "@namespace:n\nFeature: A\n Scenario: S\n  Given light\n".toUTF8
    root := ⟨1, ["home"]⟩ }

def lampFeature : Path := ⟨1, ["home", "features", "a.feature"]⟩

/-- The configuration of the lamp, with its step sources at a path. -/
def lampConfig (directory steps : String) : Config :=
  { outputsTo directory with stepsDirs := .arr [.str steps] }

def lampJob (directory : String) (catalog : Catalog) : Job :=
  { root := ⟨1, ["home"]⟩, catalog, template := "# tests"
    outputDir := (⟨1, ["home"]⟩ : Path).«to» (.ofText directory)
    snapshots := false, write := true }

/-- The definition of the step source. -/
def lampSteps : Catalog := [⟨.context, "light", "Lamp", "lamp", "on", []⟩]

/-- How a run of the lamp starts. -/
def lampStart (t : FileTree) (directory steps : String) (catalog : Catalog) (paths : List Path) :
    Prepared :=
  ⟨lampJob directory catalog,
    ⟨t, [], .empty, ((lamp.withTree t).loadCatalog (lampConfig directory steps)).log⟩, paths⟩

theorem lamp_prepare {t : FileTree} {directory steps : String} {catalog : Catalog}
    {paths : List Path}
    (used : (lamp.withTree t).templates (lampConfig directory steps) = .ok [⟨1, ["home", "t.j2"]⟩])
    (read : (lamp.withTree t).readText ⟨1, ["home", "t.j2"]⟩ = .ok "# tests")
    (loaded : ((lamp.withTree t).loadCatalog (lampConfig directory steps)).result = .ok catalog)
    (probe : ∃ n, (lamp.withTree t).probe ⟨1, ["home", "features"]⟩ = .ok n)
    (found : t.find ⟨1, ["home", "features"]⟩ (hasEnding featureEnding) = paths) :
    (lamp.withTree t).prepare (lampConfig directory steps) true =
      .ok (lampStart t directory steps catalog paths) := by
  obtain ⟨n, hn⟩ := probe
  have hfeatures : (lamp.withTree t).features (lampConfig directory steps) = .ok paths := by
    have hpath : (lamp.withTree t).pathOf (lampConfig directory steps).featuresDir =
        .ok ⟨1, ["home", "features"]⟩ := rfl
    rw [Project.features, hpath]
    simp only [hn]
    exact congrArg Except.ok found
  have hdirectory : (lamp.withTree t).pathOf (lampConfig directory steps).outputDir =
      .ok ((⟨1, ["home"]⟩ : Path).«to» (.ofText directory)) := rfl
  have hstart : ∀ log : Log, ((⟨t, [], .empty, []⟩ : Run).diagnosed
      (extraTemplates [⟨1, ["home", "t.j2"]⟩])).logged log = ⟨t, [], .empty, log⟩ := fun _ => rfl
  unfold prepare
  simp only [used, read, loaded, hdirectory, hfeatures]
  exact congrArg (fun start => Except.ok (Prepared.mk (lampJob directory catalog) start paths))
    (hstart _)

theorem eq_of_nodes {t u : FileTree} (here : u.here = t.here) (nodes : u.nodes = t.nodes) :
    u = t := by
  cases t
  cases u
  obtain rfl : _ = _ := here
  obtain rfl : _ = _ := nodes
  rfl

/-- What a run reports that leaves the tree `t`, where a second one starts. -/
theorem report_and_again {p : Project} {c : Config} {q : Prepared} {t : FileTree} {α : Type}
    (view : Report → α) {a : α} (hq : p.prepare c true = .ok q) (here : t.here = p.tree.here)
    (h : (q.after q.paths).toOption.map (fun r => (r.tree.nodes, view r.report)) =
      some (t.nodes, a)) :
    ∃ report, (p.run c true).result = .ok report ∧ view report = a ∧
      p.again c = (p.withTree t).run c true := by
  cases hr : q.after q.paths with
  | error ended =>
    rw [hr] at h
    cases h
  | ok r =>
    rw [hr] at h
    obtain ⟨hnodes, hview⟩ := Prod.mk.inj (Option.some.inj h)
    have htree : r.ended.tree = t := by
      refine eq_of_nodes ?_ hnodes
      rw [here, ← (prepares_of_prepare hq).tree]
      exact (Run.features_filled hr).here
    have hrun := run_of_after hq hr
    refine ⟨r.report, by rw [hrun, Run.ended], hview, ?_⟩
    rw [again, hrun, htree]

/-- The tree of the lamp behind a run whose output directory has the name of a feature. -/
def lampInFeatures : FileTree :=
  ((lamp.tree.putDirectory ["home", "features", "out.feature"]).putDirectory
    ["home", "features", "out.feature", "n"]).putFile
      ["home", "features", "out.feature", "n", "test_a.py"] "# tests".toUTF8

/-- The tree of the lamp behind a run that cannot write. -/
def lampUnwritten : FileTree := lamp.tree.putDirectory ["home", "m"]

/-- The tree of the lamp behind a run that writes. -/
def lampWritten : FileTree :=
  (((lamp.tree.putDirectory ["home", "a"]).putDirectory ["home", "a", "b"]).putDirectory
    ["home", "a", "b", "n"]).putFile ["home", "a", "b", "n", "test_a.py"] "# tests".toUTF8

/-- The features that are found in the four trees. -/
theorem lamp_finds :
    (∀ t ∈ [lamp.tree, lampUnwritten, lampWritten],
      t.find ⟨1, ["home", "features"]⟩ (hasEnding featureEnding) = [lampFeature]) ∧
    lampInFeatures.find ⟨1, ["home", "features"]⟩ (hasEnding featureEnding) =
      [lampFeature, ⟨1, ["home", "features", "out.feature"]⟩] := by
  simp only [List.forall_mem_cons, List.not_mem_nil, false_implies, implies_true, and_true]
  refine ⟨⟨?_, ?_, ?_⟩, ?_⟩
  all_goals exact FileTree.find_of_sorted (by decide) (by decide)

theorem lamp_find : lamp.tree.find ⟨1, ["home", "features"]⟩ (hasEnding featureEnding) =
    [lampFeature] := lamp_finds.1 _ (by simp)

def lampWarning : String :=
  "Feature 'a' has 1 unimplemented step(s). Stub implementations generated in output file."

def lampText : String := "@namespace:n\nFeature: A\n Scenario: S\n  Given light\n"

/-- The feature of the lamp as it is read. -/
def lampScript : Gherkin.Feature :=
  { tags := ["@namespace:n"], language := "en", keyword := "Feature", name := "A", description := "",
    children := [.scenario
      { tags := [], keyword := "Scenario", name := "S", description := "", examples := [],
        steps := [⟨"Given ", .kind .context, "light", none⟩] }] }

/-- The test module of the lamp's feature. -/
def lampModule (c : Catalog) : GeneratedFile :=
  ⟨"features/a.feature", "n/test_a.py", "# tests", Plan.plan c "a" lampScript⟩

/-- The feature of the lamp gives a module without its definition, and one with it. -/
theorem lamp_gives :
    generateFeature [] "# tests" lampText "a" "features/a.feature" =
      ⟨some (lampModule []),
        [⟨unimplementedCode, .warning, lampWarning, some "features/a.feature"⟩]⟩ ∧
    generateFeature lampSteps "# tests" lampText "a" "features/a.feature" =
      ⟨some (lampModule lampSteps), []⟩ := by decide +kernel

/-- A run of the lamp is that of the features behind its first one, whose outputs are written. -/
theorem lamp_view {t : FileTree} {directory steps : String} {c : Catalog} {paths : List Path}
    {ds : List Diagnostic} {α : Type} {view : Run → α} {a : α}
    (found : t.look lampFeature =
      .ok (["home", "features", "a.feature"], .file lampText.toUTF8))
    (gives : generateFeature c "# tests" lampText "a" "features/a.feature" =
      ⟨some (lampModule c), ds⟩)
    (h : (Run.output (lampJob directory c)
      ((((lampStart t directory steps c []).start.logged
        (generationLog c lampText)).diagnosed ds).claimed (lampModule c)) (lampModule c) >>=
          fun r => Run.features (lampJob directory c) r paths).toOption.map view = some a) :
    ((lampStart t directory steps c (lampFeature :: paths)).after
      (lampFeature :: paths)).toOption.map view = some a := by
  have hread : t.readText lampFeature = .ok lampText := by
    rw [FileTree.readText, FileTree.readBytes, found]
    simp only [decode_toUTF8]
    rw [unifyLineEnds_eq_self (by decide), String.ofList_toList]
  have hfeature : Run.feature (lampJob directory c) (lampStart t directory steps c []).start
      lampFeature = _ := Run.feature_of_generated hread gives rfl
  show (Run.features (lampJob directory c) (lampStart t directory steps c []).start
    (lampFeature :: paths)).toOption.map view = some a
  rw [Run.features, List.foldlM_cons, hfeature]
  exact h

theorem lamp_starts (directory : String) :
    lamp.prepare (lampConfig directory "tests/steps") true =
      .ok (lampStart lamp.tree directory "tests/steps" [] [lampFeature]) :=
  lamp_prepare rfl rfl rfl ⟨_, rfl⟩ lamp_find

theorem lampInFeatures_starts (directory : String) :
    (lamp.withTree lampInFeatures).prepare (lampConfig directory "tests/steps") true =
      .ok (lampStart lampInFeatures directory "tests/steps" []
        [lampFeature, ⟨1, ["home", "features", "out.feature"]⟩]) :=
  lamp_prepare rfl rfl rfl ⟨_, rfl⟩ lamp_finds.2

theorem lampUnwritten_starts (directory : String) :
    (lamp.withTree lampUnwritten).prepare (lampConfig directory "tests/steps") true =
      .ok (lampStart lampUnwritten directory "tests/steps" [] [lampFeature]) :=
  lamp_prepare rfl rfl rfl ⟨_, rfl⟩
    (lamp_finds.1 _ (by simp))

theorem lamp_starts_below (directory : String) :
    lamp.prepare (lampConfig directory "a/../lamp.py") true =
      .ok (lampStart lamp.tree directory "a/../lamp.py" [] [lampFeature]) :=
  lamp_prepare rfl rfl rfl ⟨_, rfl⟩ lamp_find

/-- Once its way is there, the step source is read. -/
theorem lampWritten_loads (directory : String) :
    ((lamp.withTree lampWritten).loadCatalog (lampConfig directory "a/../lamp.py")).result =
      .ok lampSteps := by
  refine result_loadCatalog_eq_ok_iff.2 ⟨[⟨0, ["a", "..", "lamp.py"]⟩], ⟨1, ["home"]⟩,
    [⟨1, ["home", "a", "..", "lamp.py"]⟩], rfl, rfl, rfl, ?_⟩
  have hread : lampWritten.readText ⟨1, ["home", "a", "..", "lamp.py"]⟩ = .ok lampSource := by
    decide +kernel
  have hmodule : moduleName lampWritten.here ⟨1, ["home", "a", "..", "lamp.py"]⟩ ⟨1, ["home"]⟩ =
      .ok "lamp" := by decide +kernel
  have hsteps : Source.analyze lampSource "lamp" = some lampSteps := by decide +kernel
  show (readSources lampWritten _ _).result = _
  rw [result_readSources_cons, readSource, hread]
  simp only [hmodule, hsteps]
  rfl

theorem lampWritten_starts (directory : String) :
    (lamp.withTree lampWritten).prepare (lampConfig directory "a/../lamp.py") true =
      .ok (lampStart lampWritten directory "a/../lamp.py" lampSteps [lampFeature]) :=
  lamp_prepare rfl rfl (lampWritten_loads directory) ⟨_, rfl⟩
    (lamp_finds.1 _ (by simp))

/-- A part of a path that no file may have as its name. -/
structure TooLong (name : String) : Prop where
  part : Path.isPart name = true
  clean : Path.hasNullChar name = false
  long : longestName < name.utf8ByteSize

namespace TooLong

variable {name : String} (h : TooLong name)
include h

theorem ne_of_size (other : String) (short : other.utf8ByteSize ≤ longestName) : name ≠ other := by
  rintro rfl
  exact absurd h.long (Nat.not_lt.2 short)

theorem step {t : FileTree} {l : Location} (hl : t.node? l = some .directory) :
    t.step l name = .error .nameTooLong := by
  rw [FileTree.step, hl]
  simp only [h.ne_of_size "" (by decide), h.ne_of_size "." (by decide),
    h.ne_of_size ".." (by decide), or_self, if_false, if_pos h.long]

theorem hasNull : (⟨1, ["home", "a", name]⟩ : Path).hasNull = false := by
  simp only [Path.hasNull, List.any_cons, h.clean]
  rfl

/-- The name is not asked for, where there is no directory to ask. -/
theorem look_lamp : lamp.tree.look ⟨1, ["home", "a", name]⟩ = .error .missing := by
  unfold FileTree.look FileTree.locate
  rw [h.hasNull]
  rfl

theorem look_lampWritten : lampWritten.look ⟨1, ["home", "a", name]⟩ = .error .nameTooLong := by
  have hway : lampWritten.walk [] ["home", "a"] = .ok ["home", "a"] := rfl
  have hwalk : lampWritten.walk [] ["home", "a", name] = .error .nameTooLong := by
    show lampWritten.walk [] (["home", "a"] ++ [name]) = _
    rw [FileTree.walk_append hway, FileTree.walk, h.step rfl]
  have hlocate : lampWritten.locate ⟨1, ["home", "a", name]⟩ = .error .nameTooLong := by
    rw [FileTree.locate, h.hasNull]
    exact hwalk
  rw [FileTree.look, hlocate]

/-- The setting of a path with the name. -/
theorem paths : Config.paths (.arr [.str (⟨0, ["a", name]⟩ : Path).text]) =
    .ok [⟨0, ["a", name]⟩] := by
  have hpath : Path.ofText (⟨0, ["a", name]⟩ : Path).text = ⟨0, ["a", name]⟩ := by
    refine Path.ofText_text ⟨Nat.zero_le 2, ?_⟩
    simp only [List.forall_mem_cons]
    exact ⟨rfl, h.part, by simp⟩
  have hread (s : String) : Config.paths (.arr [.str s]) = .ok [.ofText s] := rfl
  rw [hread, hpath]

theorem separate : lamp.Separate (lampConfig "a/b" (⟨0, ["a", name]⟩ : Path).text)
    ⟨1, ["home", "a", "b"]⟩ := by
  refine separate_of_paths h.paths rfl ?_ (by decide)
  have hplace : ((lamp.root.«to» ⟨0, ["a", name]⟩).place lamp.tree.here) = ["home", "a", name] := by
    exact Location.onward_down (l := ["home", "a"]) (h.ne_of_size "" (by decide))
      (h.ne_of_size "." (by decide)) (h.ne_of_size ".." (by decide))
  have hb : name ≠ "b" := h.ne_of_size "b" (by decide)
  intro dir hdir
  obtain rfl := List.mem_singleton.1 hdir
  have hout : (⟨1, ["home", "a", "b"]⟩ : Path).place lamp.tree.here = ["home", "a", "b"] := rfl
  rw [hplace, hout]
  simp [hb, hb.symm]

theorem starts (directory : String) :
    lamp.prepare (lampConfig directory (⟨0, ["a", name]⟩ : Path).text) true =
      .ok (lampStart lamp.tree directory (⟨0, ["a", name]⟩ : Path).text [] [lampFeature]) := by
  refine lamp_prepare rfl rfl ?_ ⟨_, rfl⟩ lamp_find
  refine result_loadCatalog_eq_ok_iff.2 ⟨_, ⟨1, ["home"]⟩, [], h.paths, rfl, ?_, rfl⟩
  show (findSources lamp.tree [⟨1, ["home", "a", name]⟩]).result = _
  rw [findSources, sourcesAt_of_error h.look_lamp (by decide)]
  rfl

theorem stops (directory : String) (report : Report) :
    ((lamp.withTree lampWritten).run
      (lampConfig directory (⟨0, ["a", name]⟩ : Path).text) true).result ≠ .ok report := by
  intro hrun
  have hfind : (findSources lampWritten [⟨1, ["home", "a", name]⟩]).result =
      .error (.file ⟨.nameTooLong, (⟨1, ["home", "a", name]⟩ : Path).text⟩) := by
    rw [findSources, sourcesAt, FileTree.probe, h.look_lampWritten]
  cases hq : (lamp.withTree lampWritten).prepare
      (lampConfig directory (⟨0, ["a", name]⟩ : Path).text) true with
  | error ended =>
    rw [run, hq] at hrun
    exact no_report_of_prepare_error rfl hq report hrun
  | ok q =>
    have hloaded := (prepares_of_prepare hq).catalog
    obtain ⟨dirs, root, sources, hdirs, -, hsources, -⟩ := result_loadCatalog_eq_ok_iff.1 hloaded
    obtain rfl := Except.ok.inj (hdirs.symm.trans h.paths)
    cases hfind.symm.trans hsources

end TooLong

/-- The messages of a report. -/
def messages (r : Report) : List String := r.diagnostics.map (·.message)

/-- Two runs of the lamp, whose outputs are kept apart from what they read, come to reports with
these messages. -/
def LampReports (directory steps : String) (first second : List String) : Prop :=
  ∃ report report',
    lamp.Separate (lampConfig directory steps) ((⟨1, ["home"]⟩ : Path).«to» (.ofText directory)) ∧
    (lamp.run (lampConfig directory steps) true).result = .ok report ∧
    (lamp.again (lampConfig directory steps)).result = .ok report' ∧
    messages report = first ∧ messages report' = second

theorem lampReports_of_starts {directory steps : String} {t : FileTree} {q q' : Prepared}
    {first second : List String}
    (separate : lamp.Separate (lampConfig directory steps)
      ((⟨1, ["home"]⟩ : Path).«to» (.ofText directory)))
    (starts : lamp.prepare (lampConfig directory steps) true = .ok q)
    (starts' : (lamp.withTree t).prepare (lampConfig directory steps) true = .ok q')
    (here : t.here = lamp.tree.here)
    (h : (q.after q.paths).toOption.map (fun r => (r.tree.nodes, messages r.report)) =
      some (t.nodes, first))
    (h' : (q'.after q'.paths).toOption.map (fun r => messages r.report) = some second) :
    LampReports directory steps first second := by
  obtain ⟨report, hreport, hview, hagain⟩ := report_and_again messages starts here h
  obtain ⟨report', hreport', hview'⟩ := report_of_view messages starts' h'
  exact ⟨report, report', separate, hreport, by rw [hagain, hreport'], hview, hview'⟩

/-- A directory that the first run made for the outputs is taken for a feature, an output that
cannot be written is refused for another reason, and a step source is found by a way that the first
run made. -/
theorem again_reports :
    LampReports "features/out.feature" "tests/steps" [lampWarning]
      [lampWarning,
        "Error reading out.feature: [Errno 21] Is a directory: '/home/features/out.feature'"] ∧
    LampReports "m/../f" "tests/steps"
      [lampWarning, "Error writing n/test_a.py: [Errno 17] File exists: '/home/m/../f'"]
      [lampWarning, "Error writing n/test_a.py: [Errno 20] Not a directory: '/home/m/../f/n'"] ∧
    LampReports "a/b" "a/../lamp.py" [lampWarning] [] := by
  refine ⟨?_, ?_, ?_⟩
  · exact lampReports_of_starts (separate_of_paths rfl rfl (by decide) (by decide)) (lamp_starts _)
      (lampInFeatures_starts _) rfl (lamp_view rfl lamp_gives.1 (by decide +kernel))
      (lamp_view rfl lamp_gives.1 (by decide +kernel))
  · exact lampReports_of_starts (separate_of_paths rfl rfl (by decide) (by decide)) (lamp_starts _)
      (lampUnwritten_starts _) rfl (lamp_view rfl lamp_gives.1 (by decide +kernel))
      (lamp_view rfl lamp_gives.1 (by decide +kernel))
  · exact lampReports_of_starts (separate_of_paths rfl rfl (by decide) (by decide))
      (lamp_starts_below _) (lampWritten_starts _) rfl
      (lamp_view rfl lamp_gives.1 (by decide +kernel)) (lamp_view rfl lamp_gives.2 (by decide +kernel))

/-- Step sources below a directory that there is not yet, at a name that is too long. -/
def longSteps : String := (⟨0, ["a", .ofList (List.replicate 256 's')]⟩ : Path).text

theorem longSteps_tooLong : TooLong (.ofList (List.replicate 256 's')) := by
  have hall {c : Char} (hc : c ≠ 's') :
      c ∉ (String.ofList (List.replicate 256 's')).toList := by
    rw [String.toList_ofList]
    exact fun hm => hc (List.eq_of_mem_replicate hm)
  constructor
  case part =>
    refine Path.isPart_iff.2 ⟨ne_of_apply_ne String.utf8ByteSize ?_,
      ne_of_apply_ne String.utf8ByteSize ?_, hall (by decide)⟩
    · decide +kernel
    · decide +kernel
  case clean =>
    rw [Path.hasNullChar, List.contains_eq_mem, decide_eq_false_iff_not]
    exact hall (by decide)
  case long => decide +kernel

/-- A path of step sources that was passed over comes to have a name that is too long. -/
theorem again_meets_long_name : ∃ report,
    lamp.Separate (lampConfig "a/b" longSteps) ⟨1, ["home", "a", "b"]⟩ ∧
    (lamp.run (lampConfig "a/b" longSteps) true).result = .ok report ∧
    ∀ report', (lamp.again (lampConfig "a/b" longSteps)).result ≠ .ok report' := by
  obtain ⟨report, hreport, -, hagain⟩ := report_and_again (t := lampWritten) messages
    (longSteps_tooLong.starts "a/b") rfl (a := [lampWarning])
    (lamp_view rfl lamp_gives.1 (by decide +kernel))
  refine ⟨report, longSteps_tooLong.separate, hreport, ?_⟩
  intro report' h
  exact longSteps_tooLong.stops "a/b" report' ((congrArg RunResult.result hagain).symm.trans h)

/-- **What shows through.**  The second run differs from the first one where a directory that was
made for the outputs has the name of a feature, where the path of the step sources goes through such
a directory and up again or on to a name that is too long, and in why an output cannot be
written. -/
theorem second_run_differs :
    LampReports "features/out.feature" "tests/steps" [lampWarning]
      [lampWarning,
        "Error reading out.feature: [Errno 21] Is a directory: '/home/features/out.feature'"] ∧
    LampReports "m/../f" "tests/steps"
      [lampWarning, "Error writing n/test_a.py: [Errno 17] File exists: '/home/m/../f'"]
      [lampWarning, "Error writing n/test_a.py: [Errno 20] Not a directory: '/home/m/../f/n'"] ∧
    LampReports "a/b" "a/../lamp.py" [lampWarning] [] ∧
    ∃ report, lamp.Separate (lampConfig "a/b" longSteps) ⟨1, ["home", "a", "b"]⟩ ∧
      (lamp.run (lampConfig "a/b" longSteps) true).result = .ok report ∧
      ∀ report', (lamp.again (lampConfig "a/b" longSteps)).result ≠ .ok report' :=
  ⟨again_reports.1, again_reports.2.1, again_reports.2.2, again_meets_long_name⟩

end Acceptance.Project
