import Acceptance.Proofs.Project.EditedStart
import Acceptance.Proofs.Project.TwoRuns
import Mathlib.Data.List.Nodup

/-!
# A feature does not disturb the others

A feature file is changed or taken away.  A run of the edited project comes to the same for every
other feature, unless the two have output paths that are the same without regard to case: to the
same entries and diagnostics of the report and to the same outputs.  Two things of the file tree
show through all the same.  Where a feature cannot be written, why may be told differently, since
directories that another one made are there or not; and a file on the way to the output directory
is in the way of all outputs as long as it is there.

    the run of the edited project comes to the same for every other feature
                                                              (edit_disturbs_no_other)
-/

namespace Acceptance.Project

open Acceptance.Text

/-- The test module that a feature file gives in a run of a project, if any. -/
def gives (p : Project) (c : Config) (y : Path) : Option GeneratedFile :=
  match p.findTemplate c with
  | .error _ => none
  | .ok used =>
    match p.readText used, (p.loadCatalog c).result with
    | .ok template, .ok catalog => rendered catalog template p.root p.tree y
    | _, _ => none

/-- Where the outputs of a test module go: the module itself and its plan. -/
def outputsOf (p : Project) (c : Config) (f : GeneratedFile) : List Path :=
  match p.pathOf c.outputDir with
  | .error _ => []
  | .ok directory =>
    let target := directory.«to» (.ofText f.outputPath)
    [target, target.parent.child (f.plan.fileName ++ ".crif.json")]

/-- A feature besides `x` whose output path is, without regard to case, none that `x` has in one of
two projects. -/
def Beside (p p' : Project) (c : Config) (x y : Path) : Prop :=
  y ≠ x ∧ ∀ f g, p.gives c y = some f → (p.gives c x = some g ∨ p'.gives c x = some g) →
    fold f.outputPath ≠ fold g.outputPath

/-- Two reports and the trees behind them that say the same of a feature. -/
structure SameFor (p : Project) (c : Config) (y : Path) (report report' : Report)
    (t t' : FileTree) : Prop where
  entries : report'.filesFrom (y.shown p.root) = report.filesFrom (y.shown p.root)
  diagnostics : List.Forall₂ Diagnostic.Like (report.diagnosticsOf (some (y.shown p.root)))
    (report'.diagnosticsOf (some (y.shown p.root)))
  outputs : ∀ f, p.gives c y = some f → ∀ path ∈ p.outputsOf c f, ∀ b,
    t'.node? (path.place p.tree.here) = some (.file b) ↔
      t.node? (path.place p.tree.here) = some (.file b)

section
variable {p : Project} {c : Config} {write : Bool} {q : Prepared} {f : GeneratedFile} {y : Path}

theorem gives_of_prepare (h : p.prepare c write = .ok q) :
    p.gives c y = rendered q.job.catalog q.job.template p.root p.tree y := by
  have hprepares := prepares_of_prepare h
  obtain ⟨used, hused, htemplate⟩ := hprepares.template
  simp only [gives, hused, htemplate, hprepares.catalog]

theorem proper_of_gives (h : p.gives c y = some f) : f.Proper := by
  unfold gives at h
  split at h
  · cases h
  · split at h
    · exact Run.proper_of_rendered h
    · cases h

/-- The outputs of a test module are where a run puts them. -/
theorem outputPlaces_of_outputsOf (h : p.pathOf c.outputDir = .ok q.job.outputDir) {path : Path}
    (hpath : path ∈ p.outputsOf c f) (here : Location) :
    Run.outputPlaces q.job f here (path.place here) := by
  rw [outputsOf, h] at hpath
  rcases List.mem_cons.1 hpath with rfl | hpath
  · exact .inl rfl
  · obtain rfl := List.mem_singleton.1 hpath
    exact .inr rfl

end

/-! ## Side by side -/

section
variable {p : Project} {t' : FileTree} {c : Config} {write : Bool} {paths : List Path} {x : Path}
  {l : Location} {old : ByteArray} {q q' : Prepared}

/-- The runs of a project and of the edited one. -/
def pairOf (p p' : Project) (c : Config) (job : Job) (paths : List Path) (x : Path)
    (l : Location) : Run.Pair where
  job := job
  before := p.tree
  behind := p'.tree
  place := l
  touched key := ∃ g, (p.gives c x = some g ∨ p'.gives c x = some g) ∧ key = fold g.outputPath
  spared source := ∀ y ∈ paths, source = some (y.shown p.root) → p.Beside p' c x y

theorem takes_pairOf (features : p.features c = .ok paths) (mem : x ∈ paths)
    (place : p.tree.locate x = .ok l) (feature : Run.IsFeaturePlace l)
    (differs : FileTree.DiffersAt l p.tree t') (hq : p.prepare c write = .ok q)
    (hq' : (p.withTree t').prepare c write = .ok q') (job : q'.job = q.job) :
    (pairOf p (p.withTree t') c q.job paths x l).Takes x paths := by
  have hroot := (prepares_of_prepare hq).root
  have hgives : ∀ y, p.gives c y =
      rendered q.job.catalog q.job.template q.job.root p.tree y := by
    rw [hroot]
    exact fun y => gives_of_prepare hq
  have hgives' : (p.withTree t').gives c x =
      rendered q.job.catalog q.job.template q.job.root t' x := by
    rw [gives_of_prepare hq', job, hroot]
    rfl
  constructor
  case feature => exact feature
  case leads => exact features_lead features
  case same =>
    intro y hy ne
    obtain ⟨k, n, hlook, hplace⟩ := features_lead features y hy
    have hk : k ≠ l := by
      rintro rfl
      exact locate_ne_of_features features mem place hy ne (FileTree.look_eq_ok_iff.1 hlook).1
    exact ⟨⟨k, n, (differs.look hk).2 hlook, hplace⟩, differs.readText hlook hk⟩
  case own =>
    rintro f (hf | hf)
    · exact ⟨f, .inl ((hgives x).trans hf), rfl⟩
    · exact ⟨f, .inr (hgives'.trans hf), rfl⟩
  case source =>
    intro hspared
    exact (hspared x mem (by rw [← hroot]; rfl)).1 rfl
  case others =>
    rintro y hy f hf ⟨g, hg, hfold⟩ hspared
    exact (hspared y hy (by rw [← hroot]; rfl)).2 f g ((hgives y).trans hf) hg hfold

theorem agree_pairOf (there : p.tree.node? l = some (.file old))
    (differs : FileTree.DiffersAt l p.tree t')
    (way : write = true → l ∈ q.job.outputDir.way p.tree.here → t'.node? l ≠ none)
    (hq : p.prepare c write = .ok q) (hq' : (p.withTree t').prepare c write = .ok q')
    (report : q'.start.report = q.start.report) :
    Run.Agree (pairOf p (p.withTree t') c q.job paths x l) q.start q'.start := by
  have hprepares := prepares_of_prepare hq
  have hprepares' := prepares_of_prepare hq'
  constructor
  case left =>
    rw [hprepares.tree]
    exact .refl _ _
  case right =>
    rw [hprepares'.tree]
    exact .refl _ _
  case trees =>
    intro hw
    rw [hprepares.tree, hprepares'.tree]
    refine Run.alike_of_differsAt differs ?_
    intro hway
    have hfile : ∃ b, t'.node? l = some (.file b) := by
      cases hn : t'.node? l with
      | none => exact absurd hn (way (hprepares.write ▸ hw) hway)
      | some n =>
        cases n with
        | directory => exact absurd hn differs.behind
        | file b => exact ⟨b, rfl⟩
    exact iff_of_true hfile ⟨old, there⟩
  case still => exact fun _ => ⟨hprepares.tree, hprepares'.tree⟩
  case claims => rw [hprepares.claims, hprepares'.claims]; exact fun _ _ => rfl
  case files => rw [report]; exact fun _ _ => rfl
  case diagnostics => rw [report]; exact fun _ _ => Diagnostic.Like.refl_all _

/-- A prepared run has a report where the path of its output directory has no null character. -/
theorem exists_after (h : p.prepare c write = .ok q)
    (clean : write = true → q.job.outputDir.hasNull = false) : ∃ r, q.after q.paths = .ok r := by
  have hprepares := prepares_of_prepare h
  refine (Run.features_eq_ok_iff hprepares.claims hprepares.leads).2 ?_
  rintro ⟨hw, hnull, -⟩
  rw [clean (hprepares.write ▸ hw)] at hnull
  cases hnull

/-- Prepared runs of a project and of the edited one agree behind their features. -/
theorem exists_agree (features : p.features c = .ok paths) (mem : x ∈ paths)
    (file : p.tree.look x = .ok (l, .file old)) (feature : Run.IsFeaturePlace l)
    (differs : FileTree.DiffersAt l p.tree t')
    (clean : write = true → q.job.outputDir.hasNull = false)
    (way : write = true → l ∈ q.job.outputDir.way p.tree.here → t'.node? l ≠ none)
    (hq : p.prepare c write = .ok q) (hq' : (p.withTree t').prepare c write = .ok q')
    (job : q'.job = q.job) (report : q'.start.report = q.start.report)
    (same : q'.paths.filter (· != x) = q.paths.filter (· != x)) :
    ∃ r s, q.after q.paths = .ok r ∧ q'.after q'.paths = .ok s ∧
      Run.Agree (pairOf p (p.withTree t') c q.job paths x l) r s := by
  obtain ⟨place, there⟩ := FileTree.look_eq_ok_iff.1 file
  obtain rfl : q.paths = paths :=
    Except.ok.inj ((prepares_of_prepare hq).features.symm.trans features)
  obtain ⟨r, hr⟩ := exists_after hq clean
  obtain ⟨s, hs⟩ := exists_after hq' (job ▸ clean)
  refine ⟨r, s, hr, hs, ?_⟩
  have hstart : Run.Agree (pairOf p (p.withTree t') c q.job q.paths x l) q.start q'.start :=
    agree_pairOf there differs way hq hq' report
  have htakes := takes_pairOf features mem place feature differs hq hq' job
  have hleads : ∀ y ∈ q'.paths, Run.LeadsToFeature t' y :=
    features_lead (prepares_of_prepare hq').features
  exact hstart.features htakes same hleads hr (job ▸ hs)

/-- Runs that agree come to the same for every feature besides `x`. -/
theorem sameFor_of_agree {r s : Run} (features : p.features c = .ok paths)
    (feature : Run.IsFeaturePlace l) (differs : FileTree.DiffersAt l p.tree t')
    (hq : p.prepare c write = .ok q)
    (agree : Run.Agree (pairOf p (p.withTree t') c q.job paths x l) r s) {y : Path}
    (hy : y ∈ paths) (beside : p.Beside (p.withTree t') c x y) :
    p.SameFor c y r.report s.report r.tree s.tree := by
  have hprepares := prepares_of_prepare hq
  have hspared : (pairOf p (p.withTree t') c q.job paths x l).spared (some (y.shown p.root)) := by
    intro z hz hshown
    have hnodup := features_shown_nodup features
    obtain rfl := List.inj_on_of_nodup_map hnodup hy hz (Option.some.inj hshown)
    exact beside
  refine ⟨agree.files _ hspared, agree.diagnostics _ hspared, ?_⟩
  intro f hf path hpath b
  have hproper := proper_of_gives hf
  have hplace := outputPlaces_of_outputsOf hprepares.outputDir hpath p.tree.here
  by_cases hw : q.job.write = true
  · have hhere : r.tree.here = p.tree.here := agree.left.here
    refine (agree.trees hw).file _ b ?_
    rw [hhere]
    refine Run.not_apart_of_outputPlaces hproper ?_ feature hplace
    rintro ⟨g, hg, hfold⟩
    exact beside.2 f g hf hg hfold
  · have hw : q.job.write = false := Bool.eq_false_iff.2 hw
    have hstill : r.tree = p.tree ∧ s.tree = t' := agree.still hw
    have hne : path.place p.tree.here ≠ l := by
      intro he
      rw [← he] at feature
      exact Run.not_isFeaturePlace_of_outputPlaces hproper hplace feature
    rw [hstill.1, hstill.2, differs.node _ hne]

/-- A run that ends before its first feature has no outputs to differ in. -/
theorem sameFor_of_ended {ended : RunResult} {report : Report} (h : p.prepare c write = .error ended)
    (hreport : ended.result = .ok report) (y : Path) (t t' : FileTree) :
    p.SameFor c y report report t t' := by
  refine ⟨rfl, Diagnostic.Like.refl_all _, fun f hf => ?_⟩
  rcases (ended_of_prepare_error h).2 with ⟨e, he⟩ | ⟨hnone, -⟩
  · rw [he] at hreport
    cases hreport
  · have hno : p.findTemplate c = .error (.noTemplate (templatePlace c)) := by
      rw [findTemplate, hnone]
    rw [gives, hno] at hf
    cases hf

end

/-! ## Top theorem -/

/-- **A feature does not disturb the others.**  A feature file `x`, which is not the template to
use, is given other bytes or taken away; where outputs are written, the path of their directory has
no null character, and does not lead through the place of a file that is taken away.  Then the run
comes to an error just where it did, and else to a report that says the same in general and of
every feature with an output path of its own. -/
theorem edit_disturbs_no_other {p : Project} {t' : FileTree} {c : Config} {write : Bool}
    {paths : List Path} {x : Path} {l : Location} {old : ByteArray}
    (features : p.features c = .ok paths) (mem : x ∈ paths)
    (file : p.tree.look x = .ok (l, .file old)) (edit : p.tree.Edits l t')
    (template : ∀ used, p.findTemplate c = .ok used → p.tree.locate used ≠ .ok l)
    (directory : write = true → ∀ directory, p.pathOf c.outputDir = .ok directory →
      directory.hasNull = false ∧
        (l ∈ directory.way p.tree.here → t'.node? l ≠ none)) :
    (∀ e, ((p.withTree t').run c write).result = .error e ↔ (p.run c write).result = .error e) ∧
    ∀ report, (p.run c write).result = .ok report →
      ∃ report', ((p.withTree t').run c write).result = .ok report' ∧
        report'.diagnosticsOf none = report.diagnosticsOf none ∧
        ∀ y ∈ paths, p.Beside (p.withTree t') c x y →
          p.SameFor c y report report' (p.run c write).tree ((p.withTree t').run c write).tree := by
  have differs := edit.differsAt (FileTree.look_eq_ok_iff.1 file).2
  have feature : Run.IsFeaturePlace l := by
    obtain ⟨k, n, hlook, hk⟩ := features_lead features x mem
    rw [file] at hlook
    rwa [(Prod.mk.inj (Except.ok.inj hlook)).1]
  rcases prepare_of_differs differs (FileTree.look_eq_ok_iff.1 file).2 feature write features mem
      (FileTree.look_eq_ok_iff.1 file).1 template with
    ⟨ended, ended', hended, hended', hresult⟩ | ⟨q, q', hq, hq', job, report, same⟩
  · -- the runs end before their first feature
    have hrun : p.run c write = ended := by rw [run, hended]
    have hrun' : (p.withTree t').run c write = ended' := by rw [run, hended']
    rw [hrun, hrun', hresult]
    exact ⟨fun e => Iff.rfl, fun report hreport =>
      ⟨report, hreport, rfl, fun y _ _ => sameFor_of_ended hended hreport y _ _⟩⟩
  · have hdirectory := (prepares_of_prepare hq).outputDir
    obtain ⟨r, s, hr, hs, hagree⟩ := exists_agree features mem file feature differs
      (fun hw => (directory hw _ hdirectory).1) (fun hw => (directory hw _ hdirectory).2)
      hq hq' job report same
    rw [run_of_after hq hr, run_of_after hq' hs]
    have hno : ∀ {run : Run} {e}, run.ended.result ≠ .error e := by
      intro run e he
      cases he
    refine ⟨fun e => iff_of_false hno hno, fun report hreport => ?_⟩
    obtain rfl := Except.ok.inj hreport
    refine ⟨s.report, rfl, ?_, fun y hy => sameFor_of_agree features feature differs hq hagree hy⟩
    have hgeneral := hagree.diagnostics none fun y _ he => by cases he
    refine Diagnostic.Like.eq_of_general hgeneral fun d hd => ?_
    exact beq_iff_eq.1 (List.mem_filter.1 hd).2

/-! ## Two neighbours -/

/-- A project with two features that give different output paths, and a file in the way of a
directory of its name. -/
def neighbours : Project :=
  { tree := ((((((FileTree.empty ["home"]).putDirectory ["home"]).putFile ["home", "t.j2"]
      "# tests".toUTF8).putFile ["home", "f"] "".toUTF8).putDirectory
      ["home", "features"]).putFile ["home", "features", "a.feature"]
      "Feature: A\n".toUTF8).putFile ["home", "features", "b.feature"]
      "@namespace:n\nFeature: B\n".toUTF8
    root := ⟨1, ["home"]⟩ }

/-- The same project without the first of the features. -/
def leftBehind : Project :=
  neighbours.withTree (neighbours.tree.remove ["home", "features", "a.feature"])

def neighbourA : Path := ⟨1, ["home", "features", "a.feature"]⟩

def neighbourB : Path := ⟨1, ["home", "features", "b.feature"]⟩

/-- The configuration of the neighbours, with their outputs in a directory. -/
def outputsTo (directory : String) : Config :=
  { Config.standard with template := .str "t.j2", outputDir := .str directory }

def neighboursJob (directory : String) : Job :=
  { root := ⟨1, ["home"]⟩, catalog := [], template := "# tests"
    outputDir := (⟨1, ["home"]⟩ : Path).«to» (.ofText directory), snapshots := false, write := true }

theorem neighbours_find : neighbours.tree.find ⟨1, ["home", "features"]⟩ (hasEnding featureEnding) =
    [neighbourA, neighbourB] :=
  FileTree.find_of_sorted (by decide) (by decide)

theorem leftBehind_find : leftBehind.tree.find ⟨1, ["home", "features"]⟩ (hasEnding featureEnding) =
    [neighbourB] :=
  FileTree.find_of_sorted (by decide) (by decide)

theorem neighbours_prepare (directory : String) :
    neighbours.prepare (outputsTo directory) true =
      .ok ⟨neighboursJob directory,
        ⟨neighbours.tree, [], .empty, (neighbours.loadCatalog (outputsTo directory)).log⟩,
        [neighbourA, neighbourB]⟩ := by
  rw [← neighbours_find]
  rfl

theorem leftBehind_prepare (directory : String) :
    leftBehind.prepare (outputsTo directory) true =
      .ok ⟨neighboursJob directory,
        ⟨leftBehind.tree, [], .empty, (leftBehind.loadCatalog (outputsTo directory)).log⟩,
        [neighbourB]⟩ := by
  rw [← leftBehind_find]
  rfl

theorem neighbours_features (directory : String) :
    neighbours.features (outputsTo directory) = .ok [neighbourA, neighbourB] := by
  rw [← neighbours_find]
  rfl

theorem neighbours_template (directory : String) :
    neighbours.findTemplate (outputsTo directory) = .ok ⟨1, ["home", "t.j2"]⟩ := rfl

theorem neighbours_beside (directory : String) :
    neighbours.Beside leftBehind (outputsTo directory) neighbourA neighbourB := by
  have hb : (neighbours.gives (outputsTo directory) neighbourB).map (fold ·.outputPath) =
      some "n/test_b.py" := by
    rw [gives_of_prepare (neighbours_prepare directory)]
    show (rendered [] "# tests" ⟨1, ["home"]⟩ neighbours.tree neighbourB).map _ = _
    decide +kernel
  have ha : (neighbours.gives (outputsTo directory) neighbourA).map (fold ·.outputPath) =
      some "test_a.py" := by
    rw [gives_of_prepare (neighbours_prepare directory)]
    show (rendered [] "# tests" ⟨1, ["home"]⟩ neighbours.tree neighbourA).map _ = _
    decide +kernel
  have hgone : leftBehind.gives (outputsTo directory) neighbourA = none := by
    rw [gives_of_prepare (leftBehind_prepare directory)]
    show rendered [] "# tests" ⟨1, ["home"]⟩ leftBehind.tree neighbourA = none
    decide +kernel
  refine ⟨by decide, ?_⟩
  rintro f g hf (hg | hg)
  · rw [hf] at hb
    rw [hg] at ha
    have hfold : fold f.outputPath = "n/test_b.py" := Option.some.inj hb
    have hfold' : fold g.outputPath = "test_a.py" := Option.some.inj ha
    rw [hfold, hfold']
    decide
  · rw [hgone] at hg
    cases hg

/-- What a prepared run reports, seen through a view of reports. -/
theorem report_of_view {p : Project} {c : Config} {q : Prepared} {α : Type} (view : Report → α)
    {a : α} (h : p.prepare c true = .ok q)
    (hview : (q.after q.paths).toOption.map (fun r => view r.report) = some a) :
    ∃ report, (p.run c true).result = .ok report ∧ view report = a := by
  cases hr : q.after q.paths with
  | error ended =>
    rw [hr] at hview
    cases hview
  | ok r =>
    rw [hr] at hview
    refine ⟨r.report, ?_, Option.some.inj hview⟩
    rw [run_of_after h hr]
    rfl

/-- The neighbour of a feature that is taken away is reported as before. -/
theorem neighbour_undisturbed : ∃ report report',
    (neighbours.run (outputsTo "out") true).result = .ok report ∧
    (leftBehind.run (outputsTo "out") true).result = .ok report' ∧
    report.files.map (·.outputPath) = ["test_a.py", "n/test_b.py"] ∧
    neighbours.SameFor (outputsTo "out") neighbourB report report'
      (neighbours.run (outputsTo "out") true).tree (leftBehind.run (outputsTo "out") true).tree := by
  have file : neighbours.tree.look neighbourA =
      .ok (["home", "features", "a.feature"], .file "Feature: A\n".toUTF8) := rfl
  have template : ∀ used, neighbours.findTemplate (outputsTo "out") = .ok used →
      neighbours.tree.locate used ≠ .ok ["home", "features", "a.feature"] := by
    intro used hused
    obtain rfl := Except.ok.inj (hused.symm.trans (neighbours_template "out"))
    decide
  have directory : true = true → ∀ directory,
      neighbours.pathOf (outputsTo "out").outputDir = .ok directory → directory.hasNull = false ∧
        (["home", "features", "a.feature"] ∈ directory.way neighbours.tree.here →
          leftBehind.tree.node? ["home", "features", "a.feature"] ≠ none) := by
    intro _ directory h
    have hout : neighbours.pathOf (outputsTo "out").outputDir = .ok ⟨1, ["home", "out"]⟩ := rfl
    obtain rfl := Except.ok.inj (h.symm.trans hout)
    exact ⟨by decide, fun hway => absurd hway (by decide)⟩
  obtain ⟨report, hreport, hfiles⟩ := report_of_view (fun r => r.files.map (·.outputPath))
    (neighbours_prepare "out") (a := ["test_a.py", "n/test_b.py"]) (by decide +kernel)
  obtain ⟨report', hreport', -, hsame⟩ := (edit_disturbs_no_other (neighbours_features "out")
    (by simp) file .removed template directory).2 report hreport
  exact ⟨report, report', hreport, hreport', hfiles,
    hsame neighbourB (by simp) (neighbours_beside "out")⟩

/-- **What shows through.**  Taking the first of the neighbours away makes place for the outputs of
the second one where they go below it, and changes why these cannot be written where a file is in
their way. -/
theorem removal_reaches_neighbour :
    neighbours.tree.Edits ["home", "features", "a.feature"] leftBehind.tree ∧
    (∃ report report',
      neighbours.features (outputsTo "features/a.feature") = .ok [neighbourA, neighbourB] ∧
      neighbours.findTemplate (outputsTo "features/a.feature") = .ok ⟨1, ["home", "t.j2"]⟩ ∧
      neighbours.Beside leftBehind (outputsTo "features/a.feature") neighbourA neighbourB ∧
      (neighbours.run (outputsTo "features/a.feature") true).result = .ok report ∧
      (leftBehind.run (outputsTo "features/a.feature") true).result = .ok report' ∧
      (report.filesFrom "features/b.feature").length = 0 ∧
      (report'.filesFrom "features/b.feature").length = 1) ∧
    ∃ report report',
      neighbours.features (outputsTo "m/../f") = .ok [neighbourA, neighbourB] ∧
      neighbours.findTemplate (outputsTo "m/../f") = .ok ⟨1, ["home", "t.j2"]⟩ ∧
      neighbours.Beside leftBehind (outputsTo "m/../f") neighbourA neighbourB ∧
      (neighbours.run (outputsTo "m/../f") true).result = .ok report ∧
      (leftBehind.run (outputsTo "m/../f") true).result = .ok report' ∧
      (report.diagnosticsOf (some "features/b.feature")).map (·.message) =
        ["Error writing n/test_b.py: [Errno 20] Not a directory: '/home/m/../f/n'"] ∧
      (report'.diagnosticsOf (some "features/b.feature")).map (·.message) =
        ["Error writing n/test_b.py: [Errno 17] File exists: '/home/m/../f'"] := by
  refine ⟨.removed, ?_, ?_⟩
  · obtain ⟨report, hreport, hfiles⟩ := report_of_view
      (fun r => (r.filesFrom "features/b.feature").length) (neighbours_prepare "features/a.feature")
      (a := 0) (by decide +kernel)
    obtain ⟨report', hreport', hfiles'⟩ := report_of_view
      (fun r => (r.filesFrom "features/b.feature").length) (leftBehind_prepare "features/a.feature")
      (a := 1) (by decide +kernel)
    exact ⟨report, report', neighbours_features _, rfl, neighbours_beside _, hreport, hreport',
      hfiles, hfiles'⟩
  · obtain ⟨report, hreport, hword⟩ := report_of_view
      (fun r => (r.diagnosticsOf (some "features/b.feature")).map (·.message))
      (neighbours_prepare "m/../f")
      (a := ["Error writing n/test_b.py: [Errno 20] Not a directory: '/home/m/../f/n'"])
      (by decide +kernel)
    obtain ⟨report', hreport', hword'⟩ := report_of_view
      (fun r => (r.diagnosticsOf (some "features/b.feature")).map (·.message))
      (leftBehind_prepare "m/../f")
      (a := ["Error writing n/test_b.py: [Errno 17] File exists: '/home/m/../f'"])
      (by decide +kernel)
    exact ⟨report, report', neighbours_features _, rfl, neighbours_beside _, hreport, hreport',
      hword, hword'⟩

end Acceptance.Project
